import Courier.Json.Value

/-!
# Faults and their places

A fault in a word, a string or a number has its place at once. A fault without a place can only come
up inside a container, and takes one where the container ends.
-/

namespace Courier.Json

/-- An outcome whose fault, if there is one, has a place. -/
def IsPlaced {α : Type} (outcome : Except Fault α) : Prop :=
  ∀ f, outcome = .error f → f.settled = true

section Outcomes

variable {α β : Type}

theorem isPlaced_ok (x : α) : IsPlaced (.ok x) := by
  rintro f ⟨⟩

theorem isPlaced_here (problem : Problem) (left : List Utf8.Symbol) :
    IsPlaced (.error (.here problem left) : Except Fault α) := by
  rintro f ⟨⟩
  rfl

theorem isPlaced_ahead (problem : Problem) (left : List Utf8.Symbol) :
    IsPlaced (.error (.ahead problem left) : Except Fault α) := by
  rintro f ⟨⟩
  rfl

theorem IsPlaced.error {outcome : Except Fault β} {f : Fault} (h : IsPlaced outcome)
    (hf : outcome = .error f) : IsPlaced (.error f : Except Fault α) := by
  rintro g ⟨⟩
  exact h f hf

theorem IsPlaced.map {outcome : Except Fault α} (h : IsPlaced outcome) (f : α → β) :
    IsPlaced (outcome.map f) := by
  cases outcome with
  | ok x => exact isPlaced_ok _
  | error fault => exact h.error rfl

end Outcomes

/-! ## Words and strings -/

theorem isPlaced_word (ws : List Char) (cs : List Utf8.Symbol) : IsPlaced (word ws cs) := by
  induction ws generalizing cs with
  | nil => exact isPlaced_ok cs
  | cons w ws ih =>
    cases cs with
    | nil => exact isPlaced_here _ _
    | cons c cs =>
      rw [word]
      split
      · exact ih cs
      · exact isPlaced_ahead _ _

theorem isPlaced_hexEscape (cs : List Utf8.Symbol) : IsPlaced (hexEscape cs) := by
  unfold hexEscape
  split
  · exact isPlaced_here _ _
  · split
    · exact isPlaced_ok _
    · rintro f ⟨⟩
      rfl

theorem isPlaced_secondHalf (lead : Nat) (cs : List Utf8.Symbol) :
    IsPlaced (secondHalf lead cs) := by
  unfold secondHalf
  split
  · exact isPlaced_here _ _
  · exact isPlaced_here _ _
  · split
    · next hf => exact (isPlaced_hexEscape _).error hf
    · split
      · exact isPlaced_ok _
      · exact isPlaced_here _ _
  · exact isPlaced_ahead _ _
  · exact isPlaced_ahead _ _

theorem isPlaced_escaped (cs : List Utf8.Symbol) : IsPlaced (escaped cs) := by
  unfold escaped
  split
  · exact isPlaced_here _ _
  · unfold unicodeEscape
    split
    · next hf => exact (isPlaced_hexEscape _).error hf
    · split
      · exact isPlaced_here _ _
      · split
        · exact isPlaced_secondHalf _ _
        · exact isPlaced_ok _
  · split
    · exact isPlaced_ok _
    · exact isPlaced_ahead _ _
  · exact isPlaced_ahead _ _

theorem isPlaced_literalFrom (fuel : Nat) (sound : Bool) (read : List Char)
    (cs : List Utf8.Symbol) : IsPlaced (literalFrom fuel sound read cs) := by
  induction fuel generalizing sound read cs with
  | zero => exact isPlaced_here _ _
  | succ fuel ih =>
    unfold literalFrom
    split
    · exact isPlaced_here _ _
    · split
      · exact isPlaced_ok _
      · exact isPlaced_here _ _
    · split
      · next hf => exact (isPlaced_escaped _).error hf
      · exact ih _ _ _
    · split
      · exact isPlaced_here _ _
      · exact ih _ _ _
    · exact ih _ _ _

/-! ## Numbers -/

theorem isPlaced_floatOr (left : List Utf8.Symbol) (x : Option Finite64) :
    IsPlaced (floatOr left x) := by
  cases x with
  | none => exact isPlaced_here _ _
  | some x => exact isPlaced_ok _

theorem isPlaced_exponentPart (negative : Bool) (significand : Nat) (exponent : Int)
    (cs : List Utf8.Symbol) : IsPlaced (exponentPart negative significand exponent cs) := by
  unfold exponentPart
  split
  split
  · exact isPlaced_here _ _
  · split
    · split
      · exact isPlaced_floatOr _ _
      · split
        · exact isPlaced_here _ _
        · exact isPlaced_ok _
    · exact isPlaced_ahead _ _

theorem isPlaced_maybeExponent (negative : Bool) (significand : Nat) (exponent : Int)
    (cs : List Utf8.Symbol) : IsPlaced (maybeExponent negative significand exponent cs) := by
  unfold maybeExponent
  split
  · exact isPlaced_exponentPart _ _ _ _
  · exact isPlaced_exponentPart _ _ _ _
  · exact isPlaced_floatOr _ _

theorem isPlaced_fractionPart (negative : Bool) (significand : Nat) (exponent : Int)
    (cs : List Utf8.Symbol) : IsPlaced (fractionPart negative significand exponent cs) := by
  unfold fractionPart
  split
  split
  · split
    · exact isPlaced_ahead _ _
    · exact isPlaced_ahead _ _
  · split
    exact isPlaced_maybeExponent _ _ _ _

theorem isPlaced_unsigned (negative : Bool) (cs : List Utf8.Symbol) :
    IsPlaced (unsigned negative cs) := by
  unfold unsigned
  split
  split
  · split
    · exact isPlaced_here _ _
    · exact isPlaced_ahead _ _
  · split
    · exact isPlaced_ahead _ _
    · split
      dsimp only
      split
      · exact isPlaced_fractionPart _ _ _ _
      · exact isPlaced_exponentPart _ _ _ _
      · exact isPlaced_exponentPart _ _ _ _
      · split
        · split
          · exact isPlaced_ok _
          · exact isPlaced_here _ _
        · exact isPlaced_floatOr _ _

theorem isPlaced_numeral (cs : List Utf8.Symbol) : IsPlaced (numeral cs) := by
  unfold numeral
  split
  · exact isPlaced_unsigned _ _
  · exact isPlaced_unsigned _ _

/-! ## Containers -/

theorem settled_settle (left : List Utf8.Symbol) (f : Fault) : (f.settle left).settled = true := by
  unfold Fault.settle
  split
  · assumption
  · rfl

/-- The ways to end a container: where it does not end, the fault has a place. -/
def EndsPlaced (finish : List Utf8.Symbol → Option Fault × List Utf8.Symbol) : Prop :=
  ∀ left f tail, finish left = (some f, tail) → f.settled = true

theorem endsPlaced_endList : EndsPlaced endList := by
  intro left f tail h
  unfold endList at h
  split at h
  · cases h
    rfl
  · cases h
  · split at h
    · cases h
      rfl
    · cases h
      rfl
  · cases h
    rfl

theorem endsPlaced_endObject : EndsPlaced endObject := by
  intro left f tail h
  unfold endObject at h
  split at h
  · cases h
    rfl
  · cases h
  · cases h
    rfl
  · cases h
    rfl

/-- **A container** gives a place to every fault inside it. -/
theorem isPlaced_close {α : Type} {finish : List Utf8.Symbol → Option Fault × List Utf8.Symbol}
    (hfinish : EndsPlaced finish) (contents : Except Fault (α × List Utf8.Symbol)) :
    IsPlaced (close finish contents) := by
  unfold close
  split
  · rintro f ⟨⟩
    exact settled_settle _ _
  · next left =>
    split
    · exact isPlaced_ok _
    · next f tail hend =>
      rintro g ⟨⟩
      exact hfinish left f tail hend

end Courier.Json
