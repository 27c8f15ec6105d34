/-!
# Facts about lists and failing computations

General facts the proofs of this library use about the standard library's lists and about
computations that may fail (`Except`): how listing each value once behaves under appending and
repeating, how counts by two properties compare, and what a computation that succeeds after a
bind or a map ran before.
-/

namespace ModuleGraph

/-- Listing a value once more keeps it out when it was listed before. -/
theorem List.eraseDups_append_singleton {α : Type} [BEq α] [LawfulBEq α] (xs : List α) (x : α) :
    (xs ++ [x]).eraseDups = if xs.eraseDups.contains x then xs.eraseDups else xs.eraseDups ++ [x] := by
  rw [List.eraseDups_append]
  by_cases hx : x ∈ xs
  · have hnone : [x].removeAll xs = [] := by simp [List.removeAll, hx]
    simp [hnone, hx, List.mem_eraseDups]
  · have hone : [x].removeAll xs = [x] := by simp [List.removeAll, hx]
    simp [hone, hx, List.mem_eraseDups, List.eraseDups_cons]

/-- Listing values each once, twice over, lists them as once. -/
theorem List.eraseDups_eraseDups {α : Type} [BEq α] [LawfulBEq α] :
    ∀ xs : List α, xs.eraseDups.eraseDups = xs.eraseDups
  | [] => rfl
  | x :: xs => by
    -- what the first pass keeps after `x` holds no `x`, so the second pass keeps all of it
    have hfree : ∀ y ∈ (xs.filter fun y => !y == x).eraseDups, (!y == x) = true :=
      fun y hy => (List.mem_filter.mp (List.mem_eraseDups.mp hy)).2
    rw [List.eraseDups_cons, List.eraseDups_cons, List.filter_eq_self.mpr hfree,
      List.eraseDups_eraseDups (xs.filter fun y => !y == x)]
  termination_by xs => xs.length
  decreasing_by exact Nat.lt_succ_of_le (List.length_filter_le _ _)

/-- A count of the members with one property is below the count with a second when every member
with the first has the second, and some member has the second and not the first. -/
theorem List.countP_lt_countP_of_imp {β : Type} {p q : β → Bool} :
    ∀ {l : List β}, (∀ x ∈ l, p x = true → q x = true) → ∀ {x : β}, x ∈ l → q x = true →
      p x = false → l.countP p < l.countP q
  | [], _, _, hx, _, _ => absurd hx List.not_mem_nil
  | y :: l, hpq, x, hx, hq, hp => by
    have hrest : ∀ z ∈ l, p z = true → q z = true := fun z hz => hpq z (List.mem_cons_of_mem y hz)
    have hy := hpq y List.mem_cons_self
    rw [List.countP_cons, List.countP_cons]
    rcases List.mem_cons.mp hx with rfl | hx
    · -- the witness is the head: the rest counts no more with `p` than with `q`
      have hle := List.countP_mono_left hrest
      simp only [hq, hp, if_true, Bool.false_eq_true, if_false]
      omega
    · have hlt := List.countP_lt_countP_of_imp hrest hx hq hp
      by_cases hpy : p y = true
      · simp only [hpy, hy hpy, if_true]
        omega
      · simp only [hpy, Bool.false_eq_true, if_false]
        split <;> omega

/-- A computation followed by another succeeds exactly when the first one did and the second
one did on what it gave. -/
theorem Except.bind_eq_ok_iff {ε α β : Type} {x : Except ε α} {g : α → Except ε β} {b : β} :
    (x >>= g) = .ok b ↔ ∃ a, x = .ok a ∧ g a = .ok b := by
  cases x with
  | error e =>
    constructor
    · intro h
      cases h
    · intro h
      obtain ⟨_, h, -⟩ := h
      cases h
  | ok a =>
    constructor
    · intro h
      exact ⟨a, rfl, h⟩
    · intro h
      obtain ⟨_, h, hg⟩ := h
      cases h
      exact hg

/-- A computation whose result is mapped succeeds exactly when it did, with the image of what it
gave. -/
theorem Except.map_eq_ok_iff {ε α β : Type} {x : Except ε α} {g : α → β} {b : β} :
    (g <$> x) = .ok b ↔ ∃ a, x = .ok a ∧ g a = b := by
  cases x with
  | error e =>
    constructor
    · intro h
      cases h
    · intro h
      obtain ⟨_, h, -⟩ := h
      cases h
  | ok a =>
    constructor
    · intro h
      cases h
      exact ⟨a, rfl, rfl⟩
    · intro h
      obtain ⟨_, h, rfl⟩ := h
      cases h
      rfl

end ModuleGraph
