import SpriteStage.Proofs.Json.Grammar
import SpriteStage.Proofs.Json.Progress

/-!
# All JSON is read

No text that is JSON is refused as malformed: it is read, unless it has a whole number of too many
digits (`Json.read_of_isText`). The proof is by induction on the derivation of the text. For each
part of the grammar it says what the reader takes of a text that begins with such a part
(`Json.Taken`), whatever may come after the part, and that from some number of steps on.

A value is taken exactly. Of a text, which may have blanks at its end, the reader leaves those: what
it leaves is the same as the rest once blanks are skipped. Where a value may end depends on what
follows it, for numbers alone, which is why only blanks and marks may follow (`Json.Parts`).
-/

namespace SpriteStage.Json

variable {cs rest : List Char}

/-! ### What may follow -/

/-- The mark that may follow an item, a field, or the last of them. -/
def isMark (c : Char) : Bool := c == ',' || c == '\x5d' || c == '\x7d'

/-- Nothing follows, or a mark. -/
def Closes (rest : List Char) : Prop := ∀ c ∈ rest.head?, isMark c

/-- Nothing follows, or a blank or a mark. -/
def Parts (rest : List Char) : Prop := ∀ c ∈ rest.head?, isBlank c ∨ isMark c

theorem isBlank_iff {c : Char} : isBlank c ↔ c = ' ' ∨ c = '\t' ∨ c = '\n' ∨ c = '\r' := by
  simp only [isBlank, Bool.or_eq_true, beq_iff_eq, or_assoc]

theorem skipBlanks_append (h : Blanks cs) (rest : List Char) :
    skipBlanks (cs ++ rest) = skipBlanks rest := List.dropWhile_append_of_pos h

theorem Closes.skipBlanks (h : Closes rest) : skipBlanks rest = rest := by
  cases rest with
  | nil => rfl
  | cons c rest =>
    have hblank : ¬ isBlank c := by
      obtain (rfl | rfl) | rfl := by simpa [isMark] using h c rfl
      all_goals decide
    exact List.dropWhile_cons_of_neg hblank

theorem Blanks.parts (h : Blanks cs) (hrest : Closes rest) : Parts (cs ++ rest) := by
  cases cs with
  | nil => exact fun c hc => .inr (hrest c hc)
  | cons c cs =>
    intro c' hc'
    cases hc'
    exact .inl (h c List.mem_cons_self)

/-! ### Strings and numbers -/

theorem IsHex.hexUnit? {a b c d : Char} (ha : IsHex a) (hb : IsHex b) (hc : IsHex c)
    (hd : IsHex d) : ∃ unit, hexUnit? a b c d = some unit := by
  obtain ⟨va, hva⟩ := Option.isSome_iff_exists.mp ha
  obtain ⟨vb, hvb⟩ := Option.isSome_iff_exists.mp hb
  obtain ⟨vc, hvc⟩ := Option.isSome_iff_exists.mp hc
  obtain ⟨vd, hvd⟩ := Option.isSome_iff_exists.mp hd
  exact ⟨_, by simp [Json.hexUnit?, hva, hvb, hvc, hvd]; rfl⟩

/-- The inside of a string is read up to the quote. -/
theorem readString_inside (h : Inside cs) (acc : List Char) (high : Option Nat)
    (rest : List Char) : ∃ s, readString acc high (cs ++ '\x22' :: rest) = .ok (s, rest) := by
  induction h generalizing acc high with
  | nil => exact ⟨_, rfl⟩
  | @plain c cs hctrl hquote hslash _ ih =>
    have hplain : ¬ (c.toNat < 0x20 || c == '\\') := by simp [hctrl, hslash]
    rw [List.cons_append, readString.eq_4, if_neg hplain]
    · exact ih _ _
    · exact hquote
    · rintro _ _ _ _ _ rfl
      exact absurd rfl hslash
    · rintro _ _ rfl
      exact absurd rfl hslash
  | letter hletter _ ih =>
    simp only [letters, List.mem_cons, List.not_mem_nil, or_false] at hletter
    obtain rfl | rfl | rfl | rfl | rfl | rfl | rfl | rfl := hletter <;> exact ih _ _
  | @unit a b c d cs ha hb hc hd _ ih =>
    obtain ⟨unit, hunit⟩ := ha.hexUnit? hb hc hd
    simp only [List.cons_append, readString, hunit]
    split_ifs
    · exact ih _ _
    · cases high <;> exact ih _ _
    · exact ih _ _

/-- Nothing follows that could belong to a number. -/
def Ends (rest : List Char) : Prop :=
  ∀ c ∈ rest.head?, c.isDigit = false ∧ c ≠ '.' ∧ c ≠ 'e' ∧ c ≠ 'E'

theorem Parts.ends (h : Parts rest) : Ends rest := by
  intro c hc
  obtain hblank | hmark := h c hc
  · obtain rfl | rfl | rfl | rfl := isBlank_iff.mp hblank <;> decide
  · obtain (rfl | rfl) | rfl := by simpa [isMark] using hmark
    all_goals decide

theorem span_digits (h : ∀ c ∈ cs, c.isDigit) (hrest : ∀ c ∈ rest.head?, c.isDigit = false) :
    (cs ++ rest).span Char.isDigit = (cs, rest) := by
  have hnone : rest.takeWhile Char.isDigit = [] ∧ rest.dropWhile Char.isDigit = rest := by
    cases rest with
    | nil => exact ⟨rfl, rfl⟩
    | cons c rest => simp [hrest c rfl]
  rw [List.span_eq_takeWhile_dropWhile, List.takeWhile_append_of_pos h,
    List.dropWhile_append_of_pos h, hnone.1, hnone.2, List.append_nil]

theorem splitWhole_append (h : Whole cs) (hrest : ∀ c ∈ rest.head?, c.isDigit = false) :
    splitWhole (cs ++ rest) = (cs, rest) := by
  obtain rfl | ⟨⟨hne, hdigits⟩, hzero⟩ := h
  · rfl
  · have hspan := span_digits hdigits hrest
    cases cs with
    | nil => exact absurd rfl hne
    | cons c cs =>
      rw [List.cons_append] at hspan ⊢
      rw [splitWhole, hspan]
      rintro _ ⟨⟩
      exact hzero rfl

theorem splitFraction_append (h : Fraction cs)
    (hrest : ∀ c ∈ rest.head?, c.isDigit = false ∧ c ≠ '.') :
    ∃ digits, splitFraction (cs ++ rest) = (digits, rest) := by
  cases h with
  | absent =>
    refine ⟨none, ?_⟩
    rw [List.nil_append, splitFraction]
    rintro _ rfl
    exact (hrest _ rfl).2 rfl
  | @present digits hdigits =>
    have hspan := span_digits hdigits.2 fun c hc => (hrest c hc).1
    refine ⟨some digits, ?_⟩
    simp only [List.cons_append, splitFraction, hspan]
    rw [if_neg (by simpa using hdigits.1)]

theorem splitSign_append {sign : List Char} (hsign : sign ∈ [[], ['+'], ['-']]) (h : Digits cs)
    (rest : List Char) : (Number.splitSign (sign ++ (cs ++ rest))).2 = cs ++ rest := by
  simp only [List.mem_cons, List.not_mem_nil, or_false] at hsign
  obtain rfl | rfl | rfl := hsign
  · obtain ⟨hne, hdigits⟩ := h
    cases cs with
    | nil => exact absurd rfl hne
    | cons c cs =>
      have hdigit := hdigits c List.mem_cons_self
      rw [List.nil_append, List.cons_append, Number.splitSign]
      · rintro _ ⟨⟩
        exact absurd hdigit (by decide)
      · rintro _ ⟨⟩
        exact absurd hdigit (by decide)
  · rfl
  · rfl

theorem splitExponent_append (h : Exponent cs) (hrest : Ends rest) :
    ∃ exponent, splitExponent (cs ++ rest) = (exponent, rest) := by
  cases h with
  | absent =>
    cases rest with
    | nil => exact ⟨none, rfl⟩
    | cons mark rest =>
      obtain ⟨-, -, he, hE⟩ := hrest mark rfl
      exact ⟨none, by simp [splitExponent, he, hE]⟩
  | @present mark sign digits hmark hsign hdigits =>
    have hspan := span_digits hdigits.2 fun c hc => (hrest c hc).1
    have hmark' : mark = 'e' ∨ mark = 'E' := by simpa using hmark
    rw [List.cons_append, List.append_assoc]
    simp only [splitExponent, splitSign_append hsign hdigits, hspan]
    rw [if_pos (by simpa [hdigits.1] using hmark')]
    exact ⟨_, rfl⟩

/-- An exponent, or what follows a number, goes on with no digit and no point. -/
theorem Exponent.head (h : Exponent cs) (hrest : Ends rest) :
    ∀ c ∈ (cs ++ rest).head?, c.isDigit = false ∧ c ≠ '.' := by
  cases h with
  | absent =>
    intro c hc
    obtain ⟨hdigit, hpoint, -⟩ := hrest c hc
    exact ⟨hdigit, hpoint⟩
  | present hmark =>
    rintro _ ⟨⟩
    simp only [List.mem_cons, List.not_mem_nil, or_false] at hmark
    obtain rfl | rfl := hmark <;> decide

/-- A fraction, or what follows a number without one, goes on with no digit. -/
theorem Fraction.head (h : Fraction cs) (hrest : ∀ c ∈ rest.head?, c.isDigit = false ∧ c ≠ '.') :
    ∀ c ∈ (cs ++ rest).head?, c.isDigit = false := by
  cases h with
  | absent => exact fun c hc => (hrest c hc).1
  | present =>
    rintro _ ⟨⟩
    rfl

theorem Whole.ne_nil (h : Whole cs) : cs ≠ [] := by
  obtain rfl | ⟨⟨hne, -⟩, -⟩ := h
  · exact List.cons_ne_nil _ _
  · exact hne

/-- The reader comes to a value and leaves the rest, or it meets a number of too many digits. -/
def Takes {α : Type} (rest : List Char) (x : Except Problem (α × List Char)) : Prop :=
  (∃ a, x = .ok (a, rest)) ∨ ∃ digits, x = .error (.tooLong digits)

theorem readNumber_takes (h : Unsigned cs) (hrest : Parts rest) (negative : Bool) :
    Takes rest (readNumber negative (cs ++ rest)) := by
  obtain ⟨hwhole, hfraction, hexponent⟩ := h
  have hhead := hexponent.head hrest.ends
  have hsplit := splitWhole_append hwhole (hfraction.head hhead)
  obtain ⟨digits, hdigits⟩ := splitFraction_append hfraction hhead
  obtain ⟨power, hpower⟩ := splitExponent_append hexponent hrest.ends
  have hne := mt List.isEmpty_iff.mp hwhole.ne_nil
  rw [List.append_assoc, List.append_assoc]
  simp only [readNumber, hsplit, hdigits, hpower, if_neg hne]
  split_ifs
  · exact .inr ⟨_, rfl⟩
  all_goals exact .inl ⟨_, rfl⟩

theorem Unsigned.head (h : Unsigned cs) : ∃ d cs', cs = d :: cs' ∧ d.isDigit := by
  obtain ⟨hwhole, -, -⟩ := h
  obtain rfl | ⟨⟨hne, hdigits⟩, -⟩ := hwhole
  · exact ⟨'0', _, rfl, rfl⟩
  · obtain ⟨d, whole, rfl⟩ := List.exists_cons_of_ne_nil hne
    exact ⟨d, _, rfl, hdigits d List.mem_cons_self⟩

theorem Numeral.head (h : Numeral cs) : ∃ c cs', cs = c :: cs' ∧ (c.isDigit ∨ c = '-') := by
  cases h with
  | positive h =>
    obtain ⟨d, cs', rfl, hd⟩ := h.head
    exact ⟨d, cs', rfl, .inl hd⟩
  | negative h => exact ⟨'-', _, rfl, .inr rfl⟩

theorem readScalar_takes (h : Numeral cs) (hrest : Parts rest) :
    Takes rest (readScalar (cs ++ rest)) := by
  cases h with
  | positive h =>
    obtain ⟨d, cs', rfl, hd⟩ := h.head
    have htakes := readNumber_takes h hrest false
    rw [List.cons_append] at htakes ⊢
    rw [readScalar]
    · exact htakes
    all_goals
      intro _ heq
      obtain rfl := (List.cons.inj heq).1
      exact absurd hd (by decide)
  | @negative cs h =>
    obtain ⟨d, cs', rfl, hd⟩ := h.head
    have htakes := readNumber_takes h hrest true
    rw [List.cons_append, List.cons_append] at *
    rw [readScalar]
    · exact htakes
    · intro _ heq
      obtain rfl := (List.cons.inj heq).1
      exact absurd hd (by decide)

/-! ### What values begin with -/

theorem not_mem_of_isDigit {c : Char} (h : c.isDigit) (cs : List Char)
    (hcs : cs.all fun c => !c.isDigit) : c ∉ cs := by
  intro hmem
  have := List.all_eq_true.mp hcs c hmem
  simp [h] at this

/-- A value begins with what is neither a blank nor a mark. -/
theorem head_of_value (h : Derives .value cs) :
    ∃ c cs', cs = c :: cs' ∧ isBlank c = false ∧ isMark c = false := by
  cases h with
  | null => exact ⟨'n', _, rfl, rfl, rfl⟩
  | true => exact ⟨'t', _, rfl, rfl, rfl⟩
  | false => exact ⟨'f', _, rfl, rfl, rfl⟩
  | number h =>
    obtain ⟨c, cs', rfl, hdigit | rfl⟩ := h.head
    · have hblank := not_mem_of_isDigit hdigit [' ', '\t', '\n', '\r'] rfl
      have hmark := not_mem_of_isDigit hdigit [',', '\x5d', '\x7d'] rfl
      exact ⟨c, cs', rfl, by simpa [isBlank, and_assoc] using hblank,
        by simpa [isMark, and_assoc] using hmark⟩
    · exact ⟨'-', cs', rfl, rfl, rfl⟩
  | string h =>
    obtain ⟨-⟩ := h
    exact ⟨'\x22', _, rfl, rfl, rfl⟩
  | emptyList | list | emptyObject | object => exact ⟨_, _, rfl, rfl, rfl⟩

/-- After blanks, the text begins with what is no mark. -/
def Opens (cs : List Char) : Prop := ∃ c cs', skipBlanks cs = c :: cs' ∧ isMark c = false

theorem Opens.append (h : Opens cs) (rest : List Char) : Opens (cs ++ rest) := by
  obtain ⟨c, cs', hskip, hmark⟩ := h
  refine ⟨c, cs' ++ rest, ?_, hmark⟩
  unfold skipBlanks at hskip ⊢
  rw [List.dropWhile_append, hskip]
  rfl

theorem skipBlanks_value (h : Derives .value cs) (rest : List Char) :
    skipBlanks (cs ++ rest) = cs ++ rest := by
  obtain ⟨c, cs', rfl, hblank, -⟩ := head_of_value h
  exact List.dropWhile_cons_of_neg (by simp [hblank])

theorem opens_text (h : Derives .text cs) : Opens cs := by
  cases h with
  | text hbefore hvalue _ =>
    have hskip := skipBlanks_value hvalue []
    obtain ⟨c, cs', rfl, -, hmark⟩ := head_of_value hvalue
    refine Opens.append ⟨c, cs', ?_, hmark⟩ _
    rwa [skipBlanks_append hbefore, ← List.append_nil (c :: cs')]

theorem opens_items (h : Derives .items cs) : Opens cs := by
  cases h with
  | lastItem h => exact opens_text h
  | item h _ => exact (opens_text h).append _

theorem opens_members (h : Derives .members cs) : Opens cs := by
  have hmember {cs : List Char} (h : Derives .member cs) : Opens cs := by
    cases h with
    | member hbefore hkey _ _ =>
      obtain ⟨-⟩ := hkey
      simp only [List.append_assoc]
      exact ⟨'\x22', _, skipBlanks_append hbefore _, rfl⟩
  cases h with
  | lastMember h => exact hmember h
  | members h _ => exact (hmember h).append _

/-! ### Values -/

theorem Takes.bind {α β : Type} {left rest : List Char} {x : Except Problem (α × List Char)}
    {f : α × List Char → Except Problem (β × List Char)} (h : Takes left x)
    (hf : ∀ a, Takes rest (f (a, left))) : Takes rest (x >>= f) := by
  obtain ⟨a, rfl⟩ | ⟨digits, rfl⟩ := h
  · exact hf a
  · exact .inr ⟨digits, rfl⟩

theorem Takes.ok {α : Type} (a : α) (rest : List Char) :
    Takes rest (.ok (a, rest) : Except Problem (α × List Char)) := .inl ⟨a, rfl⟩

/-- A value is taken up to what may follow it, given steps enough. -/
def ValueTaken (cs : List Char) : Prop :=
  ∃ n, ∀ fuel ≥ n, ∀ rest, Parts rest → Takes rest (readValue fuel (cs ++ rest))

/-- A text is taken up to what closes it, but perhaps for blanks before that. -/
def TextTaken (cs : List Char) : Prop :=
  ∃ n, ∀ fuel ≥ n, ∀ rest, Closes rest → ∃ left, skipBlanks left = rest ∧
    Takes left (readValue fuel (skipBlanks (cs ++ rest)))

/-- What the reader takes, for each part of the grammar. -/
def Taken : Part → List Char → Prop
  | .value, cs => ValueTaken cs
  | .text, cs => TextTaken cs
  | .items, cs => ∃ n, ∀ fuel ≥ n, ∀ acc rest,
    Takes rest (readItems fuel acc (skipBlanks (cs ++ '\x5d' :: rest)))
  | .member, cs => ∃ before key between cs', cs = before ++ key ++ between ++ ':' :: cs' ∧
    Blanks before ∧ Quoted key ∧ Blanks between ∧ TextTaken cs'
  | .members, cs => ∃ n, ∀ fuel ≥ n, ∀ acc rest,
    Takes rest (readFields fuel acc (skipBlanks (cs ++ '\x7d' :: rest)))

/-- What is no string, list or object is read in one go. -/
theorem valueTaken_of_scalar {c : Char} (hc : c ∉ ['\x22', '\x5b', '\x7b'])
    (h : ∀ rest, Parts rest → Takes rest (readScalar (c :: cs ++ rest))) :
    ValueTaken (c :: cs) := by
  refine ⟨1, fun fuel hfuel rest hrest => ?_⟩
  obtain ⟨fuel, rfl⟩ := Nat.exists_eq_succ_of_ne_zero (Nat.ne_of_gt hfuel)
  obtain ⟨_, heq⟩ | ⟨_, heq⟩ | ⟨_, heq⟩ | hscalar := readValue_cases (c :: cs ++ rest)
  iterate 3
    obtain rfl := (List.cons.inj heq).1
    simp at hc
  rw [hscalar]
  exact h rest hrest

theorem taken_number (h : Numeral cs) : ValueTaken cs := by
  have htakes := fun rest (hrest : Parts rest) => readScalar_takes h hrest
  obtain ⟨c, cs', rfl, hdigit | rfl⟩ := h.head
  · exact valueTaken_of_scalar (not_mem_of_isDigit hdigit _ rfl) htakes
  · exact valueTaken_of_scalar (by decide) htakes

theorem taken_string (h : Quoted cs) : ValueTaken cs := by
  obtain ⟨h⟩ := h
  refine ⟨1, fun fuel hfuel rest _ => ?_⟩
  obtain ⟨fuel, rfl⟩ := Nat.exists_eq_succ_of_ne_zero (Nat.ne_of_gt hfuel)
  obtain ⟨s, hs⟩ := readString_inside h [] none rest
  rw [List.cons_append, List.append_assoc, List.singleton_append, readValue, hs]
  exact .ok _ rest

theorem taken_emptyList (h : Blanks cs) : ValueTaken ('\x5b' :: (cs ++ ['\x5d'])) := by
  refine ⟨1, fun fuel hfuel rest _ => ?_⟩
  obtain ⟨fuel, rfl⟩ := Nat.exists_eq_succ_of_ne_zero (Nat.ne_of_gt hfuel)
  rw [List.cons_append, List.append_assoc, List.singleton_append, readValue, skipBlanks_append h]
  exact .ok _ rest

theorem taken_emptyObject (h : Blanks cs) : ValueTaken ('\x7b' :: (cs ++ ['\x7d'])) := by
  refine ⟨1, fun fuel hfuel rest _ => ?_⟩
  obtain ⟨fuel, rfl⟩ := Nat.exists_eq_succ_of_ne_zero (Nat.ne_of_gt hfuel)
  rw [List.cons_append, List.append_assoc, List.singleton_append, readValue, skipBlanks_append h]
  exact .ok _ rest

theorem taken_list (h : Derives .items cs) (ih : Taken .items cs) :
    ValueTaken ('\x5b' :: (cs ++ ['\x5d'])) := by
  obtain ⟨n, hn⟩ := ih
  refine ⟨n + 1, fun fuel hfuel rest _ => ?_⟩
  obtain ⟨fuel, rfl⟩ := Nat.exists_eq_add_of_le' hfuel
  have hitems := hn (fuel + n) (Nat.le_add_left n fuel) [] rest
  obtain ⟨c, cs', hskip, hmark⟩ := (opens_items h).append ('\x5d' :: rest)
  rw [List.cons_append, List.append_assoc, List.singleton_append, ← Nat.add_assoc, readValue]
  rw [hskip] at hitems ⊢
  split
  · rename_i heq
    cases heq
    cases hmark
  · exact hitems

theorem taken_object (h : Derives .members cs) (ih : Taken .members cs) :
    ValueTaken ('\x7b' :: (cs ++ ['\x7d'])) := by
  obtain ⟨n, hn⟩ := ih
  refine ⟨n + 1, fun fuel hfuel rest _ => ?_⟩
  obtain ⟨fuel, rfl⟩ := Nat.exists_eq_add_of_le' hfuel
  have hmembers := hn (fuel + n) (Nat.le_add_left n fuel) [] rest
  obtain ⟨c, cs', hskip, hmark⟩ := (opens_members h).append ('\x7d' :: rest)
  rw [List.cons_append, List.append_assoc, List.singleton_append, ← Nat.add_assoc, readValue]
  rw [hskip] at hmembers ⊢
  split
  · rename_i heq
    cases heq
    cases hmark
  · exact hmembers

/-! ### Lists and objects -/

theorem taken_text {before after : List Char} (hbefore : Blanks before) (h : Derives .value cs)
    (hafter : Blanks after) (ih : ValueTaken cs) : TextTaken (before ++ cs ++ after) := by
  obtain ⟨n, hn⟩ := ih
  refine ⟨n, fun fuel hfuel rest hrest => ⟨after ++ rest, ?_, ?_⟩⟩
  · exact (skipBlanks_append hafter rest).trans hrest.skipBlanks
  · rw [List.append_assoc, List.append_assoc, skipBlanks_append hbefore, skipBlanks_value h]
    exact hn fuel hfuel _ (hafter.parts hrest)

theorem closes_cons {c : Char} (h : isMark c) (rest : List Char) : Closes (c :: rest) := by
  rintro _ ⟨⟩
  exact h

theorem taken_lastItem (ih : TextTaken cs) : Taken .items cs := by
  obtain ⟨n, hn⟩ := ih
  refine ⟨n + 1, fun fuel hfuel acc rest => ?_⟩
  obtain ⟨fuel, rfl⟩ := Nat.exists_eq_add_of_le' hfuel
  obtain ⟨left, hleft, htakes⟩ :=
    hn (fuel + n) (Nat.le_add_left n fuel) ('\x5d' :: rest) (closes_cons rfl rest)
  rw [← Nat.add_assoc, readItems]
  refine htakes.bind fun item => ?_
  simp only [hleft]
  exact .ok _ rest

theorem taken_item {more : List Char} (ih : TextTaken cs) (ihmore : Taken .items more) :
    Taken .items (cs ++ ',' :: more) := by
  obtain ⟨n, hn⟩ := ih
  obtain ⟨m, hm⟩ := ihmore
  refine ⟨max n m + 1, fun fuel hfuel acc rest => ?_⟩
  obtain ⟨fuel, rfl⟩ := Nat.exists_eq_add_of_le' hfuel
  obtain ⟨left, hleft, htakes⟩ :=
    hn (fuel + max n m) (by omega) (',' :: (more ++ '\x5d' :: rest)) (closes_cons rfl _)
  rw [List.append_assoc, List.cons_append, ← Nat.add_assoc, readItems]
  refine htakes.bind fun item => ?_
  simp only [hleft]
  exact hm (fuel + max n m) (by omega) _ rest

/-- What follows the fields up to here: another field, or the brace. -/
def readOn (fuel : Nat) (acc : Fields) : List Char → Except Problem (Datum × List Char)
  | ',' :: rest => readFields fuel acc (skipBlanks rest)
  | '\x7d' :: rest => .ok (.object acc.reverse, rest)
  | _ => .error .malformed

/-- A field is taken, and the reader goes on with what closes it. -/
theorem readFields_member (h : Taken .member cs) : ∃ n, ∀ fuel ≥ n, ∀ acc rest after,
    Closes rest → (∀ field, Takes after (readOn fuel (field :: acc) rest)) →
    Takes after (readFields (fuel + 1) acc (skipBlanks (cs ++ rest))) := by
  obtain ⟨before, key, between, cs', rfl, hbefore, ⟨hinside⟩, hbetween, n, hn⟩ := h
  refine ⟨n, fun fuel hfuel acc rest after hrest hgoes => ?_⟩
  obtain ⟨left, hleft, htakes⟩ := hn fuel hfuel rest hrest
  obtain ⟨s, hs⟩ := readString_inside hinside [] none (between ++ ':' :: (cs' ++ rest))
  have hkey : Takes (between ++ ':' :: (cs' ++ rest)) (readString [] none _) := .inl ⟨s, hs⟩
  have hcolon : skipBlanks (between ++ ':' :: (cs' ++ rest)) = ':' :: (cs' ++ rest) :=
    skipBlanks_append hbetween _
  simp only [List.append_assoc, List.cons_append, List.nil_append]
  rw [skipBlanks_append hbefore]
  refine hkey.bind fun key => ?_
  simp only [hcolon]
  refine htakes.bind fun value => ?_
  simp only [hleft]
  exact hgoes (.text key, value)

theorem taken_lastMember (ih : Taken .member cs) : Taken .members cs := by
  obtain ⟨n, hn⟩ := readFields_member ih
  refine ⟨n + 1, fun fuel hfuel acc rest => ?_⟩
  obtain ⟨fuel, rfl⟩ := Nat.exists_eq_add_of_le' hfuel
  exact hn (fuel + n) (Nat.le_add_left n fuel) acc _ rest (closes_cons rfl rest)
    fun _ => .ok _ rest

theorem taken_members {more : List Char} (ih : Taken .member cs) (ihmore : Taken .members more) :
    Taken .members (cs ++ ',' :: more) := by
  obtain ⟨n, hn⟩ := readFields_member ih
  obtain ⟨m, hm⟩ := ihmore
  refine ⟨max n m + 1, fun fuel hfuel acc rest => ?_⟩
  obtain ⟨fuel, rfl⟩ := Nat.exists_eq_add_of_le' hfuel
  rw [List.append_assoc]
  exact hn (fuel + max n m) (by omega) acc _ rest (closes_cons rfl _)
    fun _ => hm (fuel + max n m) (by omega) _ rest

/-! ### Whole texts -/

/-- By induction on the derivation, one rule of the grammar after the other. -/
theorem Derives.taken {part : Part} (h : Derives part cs) : Taken part cs := by
  induction h with
  | null => exact valueTaken_of_scalar (by decide) fun rest _ => .ok _ rest
  | true => exact valueTaken_of_scalar (by decide) fun rest _ => .ok _ rest
  | false => exact valueTaken_of_scalar (by decide) fun rest _ => .ok _ rest
  | number h => exact taken_number h
  | string h => exact taken_string h
  | emptyList h => exact taken_emptyList h
  | list h ih => exact taken_list h ih
  | emptyObject h => exact taken_emptyObject h
  | object h ih => exact taken_object h ih
  | text hbefore h hafter ih => exact taken_text hbefore h hafter ih
  | lastItem _ ih => exact taken_lastItem ih
  | item _ _ ih ihmore => exact taken_item ih ihmore
  | member hbefore hkey hbetween _ ih => exact ⟨_, _, _, _, rfl, hbefore, hkey, hbetween, ih⟩
  | lastMember _ ih => exact taken_lastMember ih
  | members _ _ ih ihmore => exact taken_members ih ihmore

/-- **All JSON is read**, but for a whole number of too many digits. -/
theorem read_of_isText (h : IsText cs) :
    (∃ d, read cs = .ok d) ∨ ∃ digits, read cs = .error (.tooLong digits) := by
  obtain ⟨n, hn⟩ := h.taken
  obtain ⟨left, hleft, htakes⟩ := hn (max n (2 * cs.length + 2)) (Nat.le_max_left ..) []
    (fun _ h => nomatch h)
  rw [List.append_nil] at htakes
  have hlength := skipBlanks_length cs
  have hsteps : readValue (max n (2 * cs.length + 2)) (skipBlanks cs) =
      readValue (2 * cs.length + 2) (skipBlanks cs) := readValue_eq_of_lt (by omega) (by omega)
  rw [hsteps] at htakes
  obtain ⟨d, hd⟩ | ⟨digits, hdigits⟩ := htakes
  · have hall : readAll cs = .ok d := by
      rw [readAll, hd]
      exact if_pos (by simp [hleft])
    exact .inl ⟨settle d, by rw [read, hall]; rfl⟩
  · exact .inr ⟨digits, by rw [read, readAll, hdigits]; rfl⟩

end SpriteStage.Json
