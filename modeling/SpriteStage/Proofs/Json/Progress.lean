import SpriteStage.Fault
import SpriteStage.Json.Reader
import Mathlib.Data.List.TakeDrop
import Mathlib.Tactic.SplitIfs

/-!
# The reader has steps enough

The readers of values, items and fields call one another with a number of steps, and a text for
which the steps run out is malformed. It never comes to that: whatever they read, what they leave is
shorter than what they were given (`Json.shortens`), and a character gives rise to at most two
steps. So with steps for twice the length of the text, and one more, the reader comes to the same as
with any greater number of them (`Json.readValue_eq_of_lt`), and a text is refused for what it is.
-/

namespace SpriteStage.Json

variable {cs rest : List Char}

/-! ### What is left is shorter -/

theorem skipBlanks_length (cs : List Char) : (skipBlanks cs).length ≤ cs.length :=
  (List.dropWhile_sublist _).length_le

theorem readString_length {acc : List Char} {high : Option Nat} {s : String}
    (h : readString acc high cs = .ok (s, rest)) : rest.length < cs.length := by
  fun_induction readString acc high cs with
  | case1 =>
    cases h
    exact Nat.lt_succ_self _
  | case2 | case7 | case9 | case11 => cases h
  | case3 | case4 | case5 | case6 | case8 | case10 =>
    rename_i ih
    have := ih h
    simp only [List.length_cons]
    omega

theorem span_length (p : Char → Bool) (cs : List Char) :
    (cs.span p).1.length + (cs.span p).2.length = cs.length := by
  rw [List.span_eq_takeWhile_dropWhile, ← List.length_append, List.takeWhile_append_dropWhile]

theorem splitSign_length (cs : List Char) : (Number.splitSign cs).2.length ≤ cs.length := by
  unfold Number.splitSign
  split <;> simp

theorem splitWhole_length (cs : List Char) :
    (splitWhole cs).1.length + (splitWhole cs).2.length = cs.length := by
  unfold splitWhole
  split
  · simp only [List.length_cons, List.length_nil]
    omega
  · exact span_length _ _

theorem splitFraction_length (cs : List Char) : (splitFraction cs).2.length ≤ cs.length := by
  unfold splitFraction
  split
  · rename_i rest
    have := span_length Char.isDigit rest
    simp only
    split_ifs <;> simp only [List.length_cons] <;> omega
  · exact Nat.le_refl _

theorem splitExponent_length (cs : List Char) : (splitExponent cs).2.length ≤ cs.length := by
  cases cs with
  | nil => exact Nat.le_refl _
  | cons mark cs =>
    have := splitSign_length cs
    have := span_length Char.isDigit (Number.splitSign cs).2
    simp only [splitExponent]
    split_ifs <;> simp only [List.length_cons] <;> omega

theorem readNumber_length {negative : Bool} {d : Datum}
    (h : readNumber negative cs = .ok (d, rest)) : rest.length < cs.length := by
  have := splitWhole_length cs
  have := splitFraction_length (splitWhole cs).2
  have := splitExponent_length (splitFraction (splitWhole cs).2).2
  simp only [readNumber] at h
  split_ifs at h with hempty
  all_goals
    cases h
    have := List.length_pos_iff.mpr (mt List.isEmpty_iff.mpr hempty)
    omega

theorem readScalar_length {d : Datum} (h : readScalar cs = .ok (d, rest)) :
    rest.length < cs.length := by
  unfold readScalar at h
  split at h
  iterate 6
    cases h
    simp only [List.length_cons]
    omega
  · exact Nat.lt_trans (readNumber_length h) (Nat.lt_succ_self _)
  · exact readNumber_length h

/-- A step that follows need only do the same after what the step before it can come to. -/
theorem bind_congr_of_ok {α β : Type} {x : Except Problem α} {f g : α → Except Problem β}
    (h : ∀ a, x = .ok a → f a = g a) : x >>= f = x >>= g := by
  cases x with
  | error problem => rfl
  | ok a => exact h a rfl

/-- A string, a list, an object, or what is read in one go. -/
theorem readValue_cases (cs : List Char) :
    (∃ inner, cs = '\x22' :: inner) ∨ (∃ inner, cs = '\x5b' :: inner) ∨
      (∃ inner, cs = '\x7b' :: inner) ∨ ∀ fuel, readValue (fuel + 1) cs = readScalar cs := by
  by_cases hstring : cs.head? = some '\x22'
  · obtain ⟨inner, h⟩ := List.head?_eq_some_iff.mp hstring
    exact .inl ⟨inner, h⟩
  by_cases hlist : cs.head? = some '\x5b'
  · obtain ⟨inner, h⟩ := List.head?_eq_some_iff.mp hlist
    exact .inr (.inl ⟨inner, h⟩)
  by_cases hobject : cs.head? = some '\x7b'
  · obtain ⟨inner, h⟩ := List.head?_eq_some_iff.mp hobject
    exact .inr (.inr (.inl ⟨inner, h⟩))
  refine .inr (.inr (.inr fun fuel => ?_))
  rw [readValue]
  · rintro inner rfl
    exact hstring rfl
  · rintro inner rfl
    exact hlist rfl
  · rintro inner rfl
    exact hobject rfl

/-- Fields begin with the quote of a key. -/
theorem readFields_cases (cs : List Char) :
    (∃ inner, cs = '\x22' :: inner) ∨
      ∀ fuel acc, readFields (fuel + 1) acc cs = .error .malformed := by
  by_cases hkey : cs.head? = some '\x22'
  · obtain ⟨inner, h⟩ := List.head?_eq_some_iff.mp hkey
    exact .inl ⟨inner, h⟩
  refine .inr fun fuel acc => ?_
  rw [readFields]
  rintro inner rfl
  exact hkey rfl

theorem length_of_skipBlanks {left : List Char} {c : Char} (h : skipBlanks left = c :: rest) :
    rest.length < left.length := by
  have := skipBlanks_length left
  rw [h] at this
  exact this

/-- What the reader leaves of a text, if it comes to a value, is shorter than the text. -/
def Shortens (reader : List Char → Except Problem (Datum × List Char)) : Prop :=
  ∀ {cs rest : List Char} {d : Datum}, reader cs = .ok (d, rest) → rest.length < cs.length

section

variable {fuel : Nat}

theorem shortens_value (hitems : ∀ acc, Shortens (readItems fuel acc))
    (hfields : ∀ acc, Shortens (readFields fuel acc)) : Shortens (readValue (fuel + 1)) := by
  intro cs rest d h
  obtain ⟨inner, rfl⟩ | ⟨inner, rfl⟩ | ⟨inner, rfl⟩ | hscalar := readValue_cases cs
  · obtain ⟨⟨s, left⟩, hs, h⟩ := of_bind_eq_ok h
    cases h
    exact Nat.lt_succ_of_lt (readString_length hs)
  · rw [readValue] at h
    split at h
    · cases h
      exact Nat.lt_succ_of_lt (length_of_skipBlanks ‹_›)
    · exact Nat.lt_succ_of_lt (Nat.lt_of_lt_of_le (hitems _ h) (skipBlanks_length inner))
  · rw [readValue] at h
    split at h
    · cases h
      exact Nat.lt_succ_of_lt (length_of_skipBlanks ‹_›)
    · exact Nat.lt_succ_of_lt (Nat.lt_of_lt_of_le (hfields _ h) (skipBlanks_length inner))
  · exact readScalar_length ((hscalar fuel).symm.trans h)

theorem shortens_items (hvalue : Shortens (readValue fuel))
    (hitems : ∀ acc, Shortens (readItems fuel acc)) (acc : List Datum) :
    Shortens (readItems (fuel + 1) acc) := by
  intro cs rest d h
  rw [readItems] at h
  obtain ⟨⟨item, left⟩, hitem, h⟩ := of_bind_eq_ok h
  have := hvalue hitem
  simp only at h
  split at h
  · rename_i more hmore
    have := hitems _ h
    have := skipBlanks_length more
    have := length_of_skipBlanks hmore
    omega
  · cases h
    have := length_of_skipBlanks ‹_›
    omega
  · cases h

theorem shortens_fields (hvalue : Shortens (readValue fuel))
    (hfields : ∀ acc, Shortens (readFields fuel acc)) (acc : Fields) :
    Shortens (readFields (fuel + 1) acc) := by
  intro cs rest d h
  obtain ⟨inner, rfl⟩ | hnone := readFields_cases cs
  · rw [readFields] at h
    obtain ⟨⟨key, left⟩, hkey, h⟩ := of_bind_eq_ok h
    have := readString_length hkey
    simp only at h
    split at h
    · rename_i text htext
      obtain ⟨⟨value, left'⟩, hread, h⟩ := of_bind_eq_ok h
      have := hvalue hread
      have := skipBlanks_length text
      have := length_of_skipBlanks htext
      simp only at h
      rw [List.length_cons]
      split at h
      · rename_i more hmore
        have := hfields _ h
        have := skipBlanks_length more
        have := length_of_skipBlanks hmore
        omega
      · cases h
        have := length_of_skipBlanks ‹_›
        omega
      · cases h
    · cases h
  · rw [hnone] at h
    cases h

end

/-- All three readers, which call one another with fewer steps. -/
theorem shortens (fuel : Nat) : Shortens (readValue fuel) ∧
    (∀ acc, Shortens (readItems fuel acc)) ∧ ∀ acc, Shortens (readFields fuel acc) := by
  induction fuel with
  | zero => exact ⟨nofun, nofun, nofun⟩
  | succ fuel ih =>
    obtain ⟨hvalue, hitems, hfields⟩ := ih
    exact ⟨shortens_value hitems hfields, shortens_items hvalue hitems,
      shortens_fields hvalue hfields⟩

/-! ### There are steps enough -/

/-- The reader comes to the same with one more step, for texts of which twice the length, and some
more, is below the number of steps. -/
def Steady (reader : Nat → List Char → Except Problem (Datum × List Char)) (more fuel : Nat) :
    Prop :=
  ∀ cs : List Char, 2 * cs.length + more < fuel → reader (fuel + 1) cs = reader fuel cs

section

variable {fuel : Nat}

theorem steady_value (hitems : ∀ acc, Steady (readItems · acc) 1 fuel)
    (hfields : ∀ acc, Steady (readFields · acc) 1 fuel) : Steady readValue 0 (fuel + 1) := by
  intro cs hlength
  obtain ⟨inner, rfl⟩ | ⟨inner, rfl⟩ | ⟨inner, rfl⟩ | hscalar := readValue_cases cs
  · rfl
  · have := skipBlanks_length inner
    rw [List.length_cons] at hlength
    rw [readValue, readValue]
    split
    · rfl
    · exact hitems _ _ (by omega)
  · have := skipBlanks_length inner
    rw [List.length_cons] at hlength
    rw [readValue, readValue]
    split
    · rfl
    · exact hfields _ _ (by omega)
  · rw [hscalar, hscalar]

theorem steady_items (hvalue : Steady readValue 0 fuel)
    (hitems : ∀ acc, Steady (readItems · acc) 1 fuel) (acc : List Datum) :
    Steady (readItems · acc) 1 (fuel + 1) := by
  intro cs hlength
  simp only [readItems]
  rw [hvalue cs (by omega)]
  refine bind_congr_of_ok fun (item, left) hread => ?_
  have := (shortens fuel).1 hread
  dsimp only
  split
  · rename_i more hmore
    have := skipBlanks_length more
    have := length_of_skipBlanks hmore
    exact hitems _ _ (by omega)
  · rfl
  · rfl

theorem steady_fields (hvalue : Steady readValue 0 fuel)
    (hfields : ∀ acc, Steady (readFields · acc) 1 fuel) (acc : Fields) :
    Steady (readFields · acc) 1 (fuel + 1) := by
  intro cs hlength
  obtain ⟨inner, rfl⟩ | hnone := readFields_cases cs
  · rw [List.length_cons] at hlength
    simp only [readFields]
    refine bind_congr_of_ok fun (key, left) hkey => ?_
    have := readString_length hkey
    dsimp only
    split
    · rename_i text htext
      have := skipBlanks_length text
      have := length_of_skipBlanks htext
      rw [hvalue (skipBlanks text) (by omega)]
      refine bind_congr_of_ok fun (value, left') hread => ?_
      have := (shortens fuel).1 hread
      dsimp only
      split
      · rename_i more hmore
        have := skipBlanks_length more
        have := length_of_skipBlanks hmore
        exact hfields _ _ (by omega)
      · rfl
      · rfl
    · rfl
  · simp only [hnone]

end

/-- All three readers. Each character of a text gives rise to at most two steps. -/
theorem steady (fuel : Nat) : Steady readValue 0 fuel ∧
    (∀ acc, Steady (readItems · acc) 1 fuel) ∧ ∀ acc, Steady (readFields · acc) 1 fuel := by
  induction fuel with
  | zero => exact ⟨nofun, nofun, nofun⟩
  | succ fuel ih =>
    obtain ⟨hvalue, hitems, hfields⟩ := ih
    exact ⟨steady_value hitems hfields, steady_items hvalue hitems, steady_fields hvalue hfields⟩

/-- **The reader has steps enough** if they are more than twice as many as the characters: with any
other number of which that is true, it comes to the same. -/
theorem readValue_eq_of_lt {fuel fuel' : Nat} (h : 2 * cs.length < fuel)
    (h' : 2 * cs.length < fuel') : readValue fuel cs = readValue fuel' cs := by
  have hleast {fuel : Nat} (h : 2 * cs.length + 1 ≤ fuel) :
      readValue fuel cs = readValue (2 * cs.length + 1) cs := by
    induction h with
    | refl => rfl
    | step h ih => exact ((steady _).1 cs h).trans ih
  exact (hleast h).trans (hleast h').symm

end SpriteStage.Json
