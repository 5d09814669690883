import SpriteStage.Proofs.Json.Numeral

/-!
# When what is written is JSON

The text of data is JSON just if each number in the data has digits (`Json.isText_textOf_iff`). One
half of that follows the data, part by part. The other half looks at what stands outside of strings:
in JSON, no capital N or I stands there, but each of the words for doubles without digits has one.
-/

namespace SpriteStage

/-- What holds of data without parts, of a list if it holds of its items, and of an object if it
holds of its values, holds of all data. -/
theorem Datum.induct {motive : Datum → Prop} (null : motive .null) (bool : ∀ b, motive (.bool b))
    (num : ∀ n, motive (.num n)) (str : ∀ s, motive (.str s))
    (list : ∀ items, (∀ d ∈ items, motive d) → motive (.list items))
    (object : ∀ fields : Fields, (∀ field ∈ fields, motive field.2) → motive (.object fields)) :
    ∀ d, motive d := by
  intro d
  refine Datum.rec (motive_1 := motive) (motive_2 := fun items => ∀ d ∈ items, motive d)
    (motive_3 := fun fields => ∀ field ∈ fields, motive field.2)
    (motive_4 := fun field => motive field.2) null bool num str list object ?_ ?_ ?_ ?_ ?_ d
  · exact nofun
  · exact fun _ _ hhead htail => List.forall_mem_cons.mpr ⟨hhead, htail⟩
  · exact nofun
  · exact fun _ _ hhead htail => List.forall_mem_cons.mpr ⟨hhead, htail⟩
  · exact fun _ _ hvalue => hvalue

namespace Datum

mutual

/-- Whether each number in the data has digits. Keys do not count: they are written as strings. -/
def isFinite : Datum → Bool
  | .num n => n.isFinite
  | .list items => allFinite items
  | .object fields => valuesFinite fields
  | _ => true
termination_by structural d => d

/-- Whether each number in the items has digits. -/
def allFinite : List Datum → Bool
  | [] => true
  | item :: rest => item.isFinite && allFinite rest
termination_by structural items => items

/-- Whether each number in the values has digits. -/
def valuesFinite : List (Key × Datum) → Bool
  | [] => true
  | (_, value) :: rest => value.isFinite && valuesFinite rest
termination_by structural fields => fields

end

@[simp] theorem isFinite_list (items : List Datum) :
    (Datum.list items).isFinite ↔ ∀ d ∈ items, d.isFinite := by
  show allFinite items ↔ _
  induction items with
  | nil => exact ⟨nofun, fun _ => rfl⟩
  | cons item rest ih => rw [allFinite, Bool.and_eq_true, ih, List.forall_mem_cons]

@[simp] theorem isFinite_object (fields : Fields) :
    (Datum.object fields).isFinite ↔ ∀ field ∈ fields, field.2.isFinite := by
  show valuesFinite fields ↔ _
  induction fields with
  | nil => exact ⟨nofun, fun _ => rfl⟩
  | cons field rest ih => rw [valuesFinite, Bool.and_eq_true, ih, List.forall_mem_cons]

end Datum

namespace Json

/-! ### Strings -/

theorem isHex_toDigits (n : Nat) : ∀ c ∈ Nat.toDigits 16 n, IsHex c := by
  have hdigit : ∀ d < 16, (Text.hexValue? (Nat.digitChar d)).isSome := by decide
  induction n using Nat.strong_induction_on with
  | _ n ih =>
    by_cases hsmall : n < 16
    · rw [Nat.toDigits_of_lt_base hsmall]
      exact List.forall_mem_singleton.mpr (hdigit n hsmall)
    · rw [Nat.toDigits_of_base_le (by omega) (by omega)]
      refine List.forall_mem_append.mpr ⟨ih (n / 16) (by omega), ?_⟩
      exact List.forall_mem_singleton.mpr (hdigit (n % 16) (by omega))

theorem inside_unitEscape {n : Nat} (h : n < 0x10000) : Inside (unitEscape n) := by
  have hlength : (Text.hex 4 n).length = 4 := by
    have hdigits : (Nat.toDigits 16 n).length ≤ 4 :=
      (Nat.length_toDigits_le_iff (by omega) (by omega)).mpr h
    simp only [Text.hex, List.length_append, List.length_replicate]
    omega
  have hhex : ∀ c ∈ Text.hex 4 n, IsHex c := by
    refine List.forall_mem_append.mpr ⟨fun c hc => ?_, isHex_toDigits n⟩
    cases List.eq_of_mem_replicate hc
    rfl
  unfold unitEscape
  generalize Text.hex 4 n = digits at hlength hhex
  obtain ⟨a, b, c, d, rfl⟩ := List.length_eq_four.mp hlength
  simp only [List.forall_mem_cons] at hhex
  obtain ⟨ha, hb, hc, hd, -⟩ := hhex
  exact .unit ha hb hc hd .nil

theorem inside_escape (c : Char) : Inside (escape c) := by
  have hletter {l : Char} (h : l ∈ letters) : Inside ['\\', l] := .letter h .nil
  unfold escape
  simp only
  split_ifs with hself _ _ _ _ _ hplain hsmall
  · refine hletter ?_
    rcases Bool.or_eq_true _ _ ▸ hself with h | h <;> rw [beq_iff_eq.mp h] <;> decide
  · exact hletter (by decide)
  · exact hletter (by decide)
  · exact hletter (by decide)
  · exact hletter (by decide)
  · exact hletter (by decide)
  · simp only [Bool.or_eq_true, beq_iff_eq, not_or] at hself
    simp only [Bool.and_eq_true, decide_eq_true_eq] at hplain
    exact .plain hplain.1 hself.1 hself.2 .nil
  · exact inside_unitEscape hsmall
  · have hvalid : c.toNat < 0x110000 := by
      rcases c.valid with h | ⟨-, h⟩
      · exact h.trans (by decide)
      · exact h
    exact (inside_unitEscape (by omega)).append (inside_unitEscape (by omega))

theorem quoted_stringText (s : String) : Quoted (stringText s).toList := by
  rw [stringText, String.toList_ofList]
  refine .mk ?_
  induction s.toList with
  | nil => exact .nil
  | cons c cs ih => exact (inside_escape c).append ih

/-! ### Values -/

/-- Texts of one part of the grammar, with commas between them, are a text of another part. -/
theorem derives_intercalate (one many : Part) (hmany : many ≠ .value)
    (hlast : ∀ cs, Derives one cs → Derives many cs)
    (hmore : ∀ cs rest, Derives one cs → Derives many rest → Derives many (cs ++ ',' :: rest))
    {texts : List String} (hne : texts ≠ []) (h : ∀ text ∈ texts, Derives one text.toList) :
    Derives many (", ".intercalate texts).toList := by
  induction texts with
  | nil => exact absurd rfl hne
  | cons text rest ih =>
    obtain ⟨htext, hrest⟩ := List.forall_mem_cons.mp h
    cases rest with
    | nil =>
      rw [String.intercalate_singleton]
      exact hlast _ htext
    | cons next rest =>
      have hblank := (ih (List.cons_ne_nil _ _) hrest).blank hmany
      rw [String.intercalate_cons_cons, String.toList_append, String.toList_append,
        List.append_assoc]
      exact hmore _ _ htext hblank

theorem textOf_list (items : List Datum) : (textOf (.list items)).toList =
    '\x5b' :: ((", ".intercalate (items.map textOf)).toList ++ ['\x5d']) := by
  have hitems : itemTexts items = items.map textOf := by
    induction items with
    | nil => rfl
    | cons item rest ih => rw [itemTexts, ih, List.map_cons]
  rw [textOf, hitems, String.toList_append, String.toList_append]
  rfl

/-- The text of a field. -/
def fieldText (field : Key × Datum) : String :=
  stringText (keyText field.1) ++ ": " ++ textOf field.2

theorem textOf_object (fields : Fields) : (textOf (.object fields)).toList =
    '\x7b' :: ((", ".intercalate (fields.map fieldText)).toList ++ ['\x7d']) := by
  have hfields : fieldTexts fields = fields.map fieldText := by
    induction fields with
    | nil => rfl
    | cons field rest ih => rw [fieldTexts, ih, List.map_cons, fieldText]
  rw [textOf, hfields, String.toList_append, String.toList_append]
  rfl

/-- A key, and a value after a blank. -/
theorem derives_member (key : String) {cs : List Char} (h : Derives .value cs) :
    Derives .member ((stringText key).toList ++ ':' :: ' ' :: cs) := by
  have hvalue := (IsText.of_value h).blank nofun
  have hmember := Derives.member blanks_nil (quoted_stringText key) blanks_nil hvalue
  rwa [List.nil_append, List.append_nil] at hmember

/-- Data whose numbers have digits is written as JSON. -/
theorem derives_textOf {d : Datum} (h : d.isFinite) : Derives .value (textOf d).toList := by
  induction d using Datum.induct with
  | null => exact .null
  | bool b =>
    cases b with
    | true => exact .true
    | false => exact .false
  | num n =>
    rcases n.numeral_cases with ⟨-, hnumeral⟩ | ⟨hnone, -⟩
    · exact .number hnumeral
    · cases h.symm.trans hnone
  | str s => exact .string (quoted_stringText s)
  | list items ih =>
    rw [Datum.isFinite_list] at h
    rw [textOf_list]
    by_cases hempty : items = []
    · subst hempty
      exact .emptyList blanks_nil
    · have htexts : ∀ text ∈ items.map textOf, Derives .text text.toList :=
        List.forall_mem_map.mpr fun item hitem => IsText.of_value (ih item hitem (h item hitem))
      have hne : items.map textOf ≠ [] := mt List.map_eq_nil_iff.mp hempty
      exact .list (derives_intercalate .text .items nofun (fun _ => .lastItem) (fun _ _ => .item)
        hne htexts)
  | object fields ih =>
    rw [Datum.isFinite_object] at h
    rw [textOf_object]
    by_cases hempty : fields = []
    · subst hempty
      exact .emptyObject blanks_nil
    · have htexts : ∀ text ∈ fields.map fieldText, Derives .member text.toList := by
        refine List.forall_mem_map.mpr fun field hfield => ?_
        have hmember := derives_member (keyText field.1) (ih field hfield (h field hfield))
        simpa [fieldText] using hmember
      have hne : fields.map fieldText ≠ [] := mt List.map_eq_nil_iff.mp hempty
      exact .object (derives_intercalate .member .members nofun (fun _ => .lastMember)
        (fun _ _ => .members) hne htexts)

/-! ### Outside of strings -/

/-- Where a character stands. -/
inductive Place where
  | outside
  | within
  /-- Within a string, behind a backslash. -/
  | escaped
  deriving DecidableEq

/-- Where the next character stands. -/
def Place.next (c : Char) : Place → Place
  | outside => if c = '\x22' then within else outside
  | within => if c = '\x22' then outside else if c = '\\' then escaped else within
  | escaped => within

/-- The characters that stand outside of strings, if the first one stands at this place. -/
def outside : Place → List Char → List Char
  | _, [] => []
  | place, c :: rest =>
    (if place = .outside ∧ c ≠ '\x22' then [c] else []) ++ outside (place.next c) rest

/-- Each string in the text ends in it. -/
def Balanced (cs : List Char) : Prop :=
  ∀ rest, outside .outside (cs ++ rest) = outside .outside cs ++ outside .outside rest

/-- No capital N or I stands outside of strings. -/
def Calm (cs : List Char) : Prop := ∀ c ∈ outside .outside cs, c ≠ 'N' ∧ c ≠ 'I'

/-- Each string in the text ends in it, and no capital N or I stands outside of them. -/
structure Tame (cs : List Char) : Prop where
  balanced : Balanced cs
  calm : Calm cs

variable {cs cs' : List Char}

theorem Balanced.append (h : Balanced cs) (h' : Balanced cs') : Balanced (cs ++ cs') := by
  intro rest
  rw [List.append_assoc, h, h', h, List.append_assoc]

theorem Balanced.calm_append_iff (h : Balanced cs) : Calm (cs ++ cs') ↔ Calm cs ∧ Calm cs' := by
  unfold Calm
  rw [h, List.forall_mem_append]

theorem Tame.append (h : Tame cs) (h' : Tame cs') : Tame (cs ++ cs') :=
  ⟨h.balanced.append h'.balanced, h.balanced.calm_append_iff.mpr ⟨h.calm, h'.calm⟩⟩

/-- Outside of strings, what is no quote stays there. -/
theorem outside_append (h : '\x22' ∉ cs) (rest : List Char) :
    outside .outside (cs ++ rest) = cs ++ outside .outside rest := by
  induction cs with
  | nil => rfl
  | cons c cs ih =>
    rw [List.mem_cons, not_or] at h
    simp [outside, Place.next, Ne.symm h.1, ih h.2]

theorem outside_eq (h : '\x22' ∉ cs) : outside .outside cs = cs := by
  have hnil := outside_append h []
  rwa [List.append_nil, outside, List.append_nil] at hnil

theorem balanced_of_not_mem (h : '\x22' ∉ cs) : Balanced cs := by
  intro rest
  rw [outside_append h, outside_eq h]

theorem IsHex.plain {c : Char} (h : IsHex c) : c ≠ '\x22' ∧ c ≠ '\\' := by
  constructor <;> (rintro rfl; cases h)

theorem outside_within (h : Inside cs) (rest : List Char) :
    outside .within (cs ++ '\x22' :: rest) = outside .outside rest := by
  induction h with
  | nil => rfl
  | plain _ hquote hslash _ ih => simp [outside, Place.next, hquote, hslash, ih]
  | letter _ _ ih => simp [outside, Place.next, ih]
  | unit ha hb hc hd _ ih =>
    simp [outside, Place.next, ha.plain.1, ha.plain.2, hb.plain.1, hb.plain.2, hc.plain.1,
      hc.plain.2, hd.plain.1, hd.plain.2, ih]

theorem Quoted.outside_append (h : Quoted cs) (rest : List Char) :
    outside .outside (cs ++ rest) = outside .outside rest := by
  obtain ⟨h⟩ := h
  have hwithin := outside_within h rest
  simpa [outside, Place.next] using hwithin

theorem Quoted.tame (h : Quoted cs) : Tame cs := by
  have hnone : outside .outside cs = [] := by
    have hnil := h.outside_append []
    rwa [List.append_nil, outside] at hnil
  refine ⟨fun rest => ?_, ?_⟩
  · rw [h.outside_append, hnone, List.nil_append]
  · rw [Calm, hnone]
    exact nofun

/-- A character that is neither a quote nor a capital N or I. -/
def IsDull (c : Char) : Prop := c ≠ '\x22' ∧ c ≠ 'N' ∧ c ≠ 'I'

instance (c : Char) : Decidable (IsDull c) := inferInstanceAs (Decidable (_ ∧ _))

theorem dull_of_all (h : cs.all (IsDull ·)) : ∀ c ∈ cs, IsDull c :=
  fun c hc => of_decide_eq_true (List.all_eq_true.mp h c hc)

theorem tame_of_dull (h : ∀ c ∈ cs, IsDull c) : Tame cs := by
  have hquote : '\x22' ∉ cs := fun hmem => (h _ hmem).1 rfl
  refine ⟨balanced_of_not_mem hquote, ?_⟩
  rw [Calm, outside_eq hquote]
  exact fun c hc => (h c hc).2

theorem Blanks.dull (h : Blanks cs) : ∀ c ∈ cs, IsDull c := by
  intro c hc
  refine ⟨?_, ?_, ?_⟩ <;> (rintro rfl; exact absurd (h _ hc) (by decide))

theorem Digits.dull (h : Digits cs) : ∀ c ∈ cs, IsDull c := by
  intro c hc
  refine ⟨?_, ?_, ?_⟩ <;> (rintro rfl; exact absurd (h.2 _ hc) (by decide))

theorem Unsigned.dull (h : Unsigned cs) : ∀ c ∈ cs, IsDull c := by
  obtain ⟨hwhole, hfraction, hexponent⟩ := h
  refine List.forall_mem_append.mpr ⟨List.forall_mem_append.mpr ⟨?_, ?_⟩, ?_⟩
  · obtain rfl | ⟨hdigits, -⟩ := hwhole
    · exact List.forall_mem_singleton.mpr (by decide)
    · exact hdigits.dull
  · cases hfraction with
    | absent => exact nofun
    | present hdigits => exact List.forall_mem_cons.mpr ⟨by decide, hdigits.dull⟩
  · cases hexponent with
    | absent => exact nofun
    | present hmark hsign hdigits =>
      have hmarks : ['e', 'E'].all (IsDull ·) := by decide
      have hsigns : ∀ sign ∈ [[], ['+'], ['-']], sign.all (IsDull ·) := by decide
      exact List.forall_mem_cons.mpr ⟨dull_of_all hmarks _ hmark,
        List.forall_mem_append.mpr ⟨dull_of_all (hsigns _ hsign), hdigits.dull⟩⟩

theorem Numeral.dull (h : Numeral cs) : ∀ c ∈ cs, IsDull c := by
  cases h with
  | positive h => exact h.dull
  | negative h => exact List.forall_mem_cons.mpr ⟨by decide, h.dull⟩

/-- What is JSON is tame. -/
theorem Derives.tame {part : Part} (h : Derives part cs) : Tame cs := by
  have hopen {c : Char} (hc : IsDull c) : Tame [c] :=
    tame_of_dull (List.forall_mem_singleton.mpr hc)
  have henclosed {first last : Char} (hfirst : IsDull first) (hlast : IsDull last)
      {cs : List Char} (h : Tame cs) : Tame (first :: (cs ++ [last])) :=
    (hopen hfirst).append (h.append (hopen hlast))
  have hjoined {mark : Char} (hmark : IsDull mark) {cs rest : List Char} (h : Tame cs)
      (hrest : Tame rest) : Tame (cs ++ mark :: rest) := h.append ((hopen hmark).append hrest)
  induction h with
  | null | true | false => exact tame_of_dull (dull_of_all (by decide))
  | number h => exact tame_of_dull h.dull
  | string h => exact h.tame
  | emptyList h | emptyObject h => exact henclosed (by decide) (by decide) (tame_of_dull h.dull)
  | list _ ih | object _ ih => exact henclosed (by decide) (by decide) ih
  | text hbefore _ hafter ih =>
    exact ((tame_of_dull hbefore.dull).append ih).append (tame_of_dull hafter.dull)
  | lastItem _ ih | lastMember _ ih => exact ih
  | item _ _ ih ihrest | members _ _ ih ihrest => exact hjoined (by decide) ih ihrest
  | member hbefore hkey hbetween _ ih =>
    have hstart := (tame_of_dull hbefore.dull).append hkey.tame
    exact hjoined (by decide) (hstart.append (tame_of_dull hbetween.dull)) ih

theorem balanced_intercalate {texts : List String} (h : ∀ text ∈ texts, Balanced text.toList) :
    Balanced (", ".intercalate texts).toList := by
  induction texts with
  | nil => exact balanced_of_not_mem (by decide)
  | cons text rest ih =>
    obtain ⟨htext, hrest⟩ := List.forall_mem_cons.mp h
    cases rest with
    | nil =>
      rw [String.intercalate_singleton]
      exact htext
    | cons next rest =>
      have hcomma : Balanced ", ".toList := balanced_of_not_mem (by decide)
      rw [String.intercalate_cons_cons, String.toList_append, String.toList_append]
      exact (htext.append hcomma).append (ih hrest)

theorem calm_of_intercalate {texts : List String} (hb : ∀ text ∈ texts, Balanced text.toList)
    (h : Calm (", ".intercalate texts).toList) : ∀ text ∈ texts, Calm text.toList := by
  induction texts with
  | nil => exact nofun
  | cons text rest ih =>
    obtain ⟨htext, hrest⟩ := List.forall_mem_cons.mp hb
    cases rest with
    | nil =>
      rw [String.intercalate_singleton] at h
      exact List.forall_mem_singleton.mpr h
    | cons next rest =>
      have hcomma : Balanced ", ".toList := balanced_of_not_mem (by decide)
      rw [String.intercalate_cons_cons, String.toList_append, String.toList_append,
        (htext.append hcomma).calm_append_iff, htext.calm_append_iff] at h
      exact List.forall_mem_cons.mpr ⟨h.1.1, ih hrest h.2⟩

theorem balanced_fieldText {field : Key × Datum} (h : Balanced (textOf field.2).toList) :
    Balanced (fieldText field).toList := by
  have hcolon : Balanced ": ".toList := balanced_of_not_mem (by decide)
  rw [fieldText, String.toList_append, String.toList_append]
  exact ((quoted_stringText _).tame.balanced.append hcolon).append h

theorem calm_of_fieldText {field : Key × Datum} (h : Calm (fieldText field).toList) :
    Calm (textOf field.2).toList := by
  have hcolon : Balanced ": ".toList := balanced_of_not_mem (by decide)
  rw [fieldText, String.toList_append, String.toList_append,
    ((quoted_stringText _).tame.balanced.append hcolon).calm_append_iff] at h
  exact h.2

/-- The text of data is balanced, whatever its numbers are. -/
theorem balanced_textOf (d : Datum) : Balanced (textOf d).toList := by
  have henclosed {first last : Char} (hfirst : '\x22' ∉ [first]) (hlast : '\x22' ∉ [last])
      {texts : List String} (h : ∀ text ∈ texts, Balanced text.toList) :
      Balanced (first :: ((", ".intercalate texts).toList ++ [last])) :=
    (balanced_of_not_mem hfirst).append
      ((balanced_intercalate h).append (balanced_of_not_mem hlast))
  induction d using Datum.induct with
  | null => exact balanced_of_not_mem (by decide)
  | bool b => cases b <;> exact balanced_of_not_mem (by decide)
  | num n =>
    rcases n.numeral_cases with ⟨-, hnumeral⟩ | ⟨-, hword⟩
    · exact (tame_of_dull hnumeral.dull).balanced
    · have hwords : ∀ word ∈ ["NaN", "Infinity", "-Infinity"], '\x22' ∉ word.toList := by decide
      exact balanced_of_not_mem (hwords _ hword)
  | str s => exact (quoted_stringText s).tame.balanced
  | list items ih =>
    rw [textOf_list]
    exact henclosed (by decide) (by decide) (List.forall_mem_map.mpr ih)
  | object fields ih =>
    rw [textOf_object]
    exact henclosed (by decide) (by decide)
      (List.forall_mem_map.mpr fun field hfield => balanced_fieldText (ih field hfield))

theorem isFinite_of_calm {d : Datum} (h : Calm (textOf d).toList) : d.isFinite := by
  have hinner {first last : Char} (hfirst : '\x22' ∉ [first]) {texts : List String}
      (hb : ∀ text ∈ texts, Balanced text.toList)
      (h : Calm (first :: ((", ".intercalate texts).toList ++ [last]))) :
      ∀ text ∈ texts, Calm text.toList := by
    have hrest := ((balanced_of_not_mem hfirst).calm_append_iff.mp h).2
    exact calm_of_intercalate hb ((balanced_intercalate hb).calm_append_iff.mp hrest).1
  induction d using Datum.induct with
  | null | bool | str => rfl
  | num n =>
    rcases n.numeral_cases with ⟨hfinite, -⟩ | ⟨-, hword⟩
    · exact hfinite
    · have hwords : ∀ word ∈ ["NaN", "Infinity", "-Infinity"],
          'N' ∈ outside .outside word.toList ∨ 'I' ∈ outside .outside word.toList := by decide
      obtain hN | hI := hwords _ hword
      · exact absurd rfl (h _ hN).1
      · exact absurd rfl (h _ hI).2
  | list items ih =>
    rw [textOf_list] at h
    have hcalm := hinner (by decide) (List.forall_mem_map.mpr fun d _ => balanced_textOf d) h
    exact (Datum.isFinite_list items).mpr fun d hd => ih d hd (List.forall_mem_map.mp hcalm d hd)
  | object fields ih =>
    rw [textOf_object] at h
    have hcalm := hinner (by decide)
      (List.forall_mem_map.mpr fun field _ => balanced_fieldText (balanced_textOf field.2)) h
    exact (Datum.isFinite_object fields).mpr fun field hfield =>
      ih field hfield (calm_of_fieldText (List.forall_mem_map.mp hcalm field hfield))

/-- **What is written is JSON** just if each number in the data has digits. -/
theorem isText_textOf_iff (d : Datum) : IsText (textOf d).toList ↔ d.isFinite :=
  ⟨fun h => isFinite_of_calm h.tame.calm, fun h => .of_value (derives_textOf h)⟩

end Json

end SpriteStage
