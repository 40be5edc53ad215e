import GiftExchange.Random.Seeded
import GiftExchange.Random.Shuffle
import Mathlib.Data.List.Nodup
import Mathlib.Data.List.Perm.Basic
import Mathlib.Logic.ExistsUnique

set_option autoImplicit false

/-! # A shuffle is a bijection between draws and orders

`Places last js` says that `js` is what one shuffle of `last + 1` places can draw: for each place
from `last` down to 1 a place at or before it. The walk only exchanges places, so it reorders the
list. It settles one place per draw and never touches it again; since the values of a list without
repetition tell their places apart, each draw is forced by the order that the walk has to end in.
So every order is reached, and by one vector of draws only (`existsUnique_walk`). -/

namespace GiftExchange

variable {α : Type}

/-- What a shuffle of `last + 1` places can draw. -/
inductive Places : Nat → List Nat → Prop where
  | none : Places 0 []
  | next {last j : Nat} {js : List Nat} (hj : j ≤ last + 1) (rest : Places last js) :
    Places (last + 1) (j :: js)

theorem Places.length_eq {last : Nat} {js : List Nat} (h : Places last js) : js.length = last := by
  induction h with
  | none => rfl
  | next _ _ ih => rw [List.length_cons, ih]

/-! ## Exchanging two places -/

theorem swapPlaces_of_lt {xs : List α} {i j : Nat} (hi : i < xs.length) (hj : j < xs.length) :
    swapPlaces xs i j = (xs.set i xs[j]).set j xs[i] := by
  rw [swapPlaces, List.getElem?_eq_getElem hi, List.getElem?_eq_getElem hj]

theorem swapPlaces_perm (xs : List α) (i j : Nat) : (swapPlaces xs i j).Perm xs := by
  by_cases hi : i < xs.length
  · by_cases hj : j < xs.length
    · rw [swapPlaces_of_lt hi hj]
      exact List.set_set_perm hi hj
    · rw [swapPlaces, List.getElem?_eq_none (Nat.le_of_not_lt hj)]
      split
      · contradiction
      · rfl
  · rw [swapPlaces, List.getElem?_eq_none (Nat.le_of_not_lt hi)]

theorem length_swapPlaces (xs : List α) (i j : Nat) : (swapPlaces xs i j).length = xs.length :=
  (swapPlaces_perm xs i j).length_eq

/-- The first of the two places gets what stood at the second. -/
theorem getElem?_swapPlaces_left {xs : List α} {i j : Nat} (hi : i < xs.length)
    (hj : j < xs.length) : (swapPlaces xs i j)[i]? = xs[j]? := by
  rw [swapPlaces_of_lt hi hj]
  by_cases hij : j = i
  · subst hij
    simp [hj]
  · simp [hij, hi, hj]

theorem getElem?_swapPlaces_of_ne {xs : List α} {i j k : Nat} (hi : k ≠ i) (hj : k ≠ j) :
    (swapPlaces xs i j)[k]? = xs[k]? := by
  rw [swapPlaces]
  split
  · rw [List.getElem?_set_ne hj.symm, List.getElem?_set_ne hi.symm]
  · rfl

/-! ## The walk -/

theorem walk_perm (js : List Nat) (xs : List α) : (walk js xs).Perm xs := by
  induction js generalizing xs with
  | nil => exact List.Perm.refl xs
  | cons j js ih => exact (ih _).trans (swapPlaces_perm xs _ _)

/-- Places behind the first one of the walk stay as they are. -/
theorem getElem?_walk_of_lt {last k : Nat} {js : List Nat} (h : Places last js) (xs : List α)
    (hk : last < k) : (walk js xs)[k]? = xs[k]? := by
  induction h generalizing xs with
  | none => rfl
  | @next last j js hj rest ih =>
    rw [walk, ih _ (by omega), rest.length_eq]
    exact getElem?_swapPlaces_of_ne (by omega) (by omega)

/-- Where a list agrees with a reordering of it behind some place, the value that the reordering has
at that place stands at or before it. -/
theorem exists_place_of_perm {xs d : List α} {last : Nat} (hlast : last < xs.length)
    (hnodup : xs.Nodup) (hperm : d.Perm xs) (hrest : ∀ k, last < k → d[k]? = xs[k]?) :
    ∃ j, j ≤ last ∧ xs[j]? = d[last]? := by
  have hd : last < d.length := by rw [hperm.length_eq]; exact hlast
  have hmem : d[last] ∈ xs := hperm.mem_iff.1 (List.getElem_mem hd)
  obtain ⟨j, hj⟩ := List.mem_iff_getElem?.1 hmem
  rw [← List.getElem?_eq_getElem hd] at hj
  refine ⟨j, Nat.le_of_not_lt fun hlt => ?_, hj⟩
  -- behind `last` the value would stand in `d` a second time
  have heq : d[last]? = d[j]? := by rw [hrest j hlt, hj]
  have : last = j := (List.getElem?_inj hd (hperm.nodup_iff.2 hnodup)).1 heq
  omega

/-- For every order that agrees with the list behind `last`, exactly one vector of draws leads the
walk there. -/
theorem existsUnique_walk_of_agree {last : Nat} {xs d : List α} (hlast : last < xs.length)
    (hnodup : xs.Nodup) (hperm : d.Perm xs) (hrest : ∀ k, last < k → d[k]? = xs[k]?) :
    ∃! js, Places last js ∧ walk js xs = d := by
  induction last generalizing xs with
  | zero =>
    obtain ⟨j, hj, hfirst⟩ := exists_place_of_perm hlast hnodup hperm hrest
    have hxs : xs = d := by
      refine List.ext_getElem? fun k => ?_
      rcases Nat.eq_zero_or_pos k with rfl | hk
      · rwa [Nat.le_zero.1 hj] at hfirst
      · exact (hrest k hk).symm
    refine ⟨[], ⟨.none, hxs⟩, ?_⟩
    rintro js ⟨hjs, -⟩
    cases hjs
    rfl
  | succ last ih =>
    obtain ⟨j, hj, hplace⟩ := exists_place_of_perm hlast hnodup hperm hrest
    have hjlt : j < xs.length := Nat.lt_of_le_of_lt hj hlast
    have hswap : (swapPlaces xs (last + 1) j).Perm xs := swapPlaces_perm xs _ _
    have hagree : ∀ k, last < k → d[k]? = (swapPlaces xs (last + 1) j)[k]? := by
      intro k hk
      rcases Nat.eq_or_lt_of_le hk with rfl | hlt
      · rw [getElem?_swapPlaces_left hlast hjlt, hplace]
      · rw [getElem?_swapPlaces_of_ne (by omega) (by omega), hrest k hlt]
    obtain ⟨js, ⟨hjs, hwalk⟩, huniq⟩ := ih (by rw [length_swapPlaces]; omega)
      (hswap.nodup_iff.2 hnodup) (hperm.trans hswap.symm) hagree
    refine ⟨j :: js, ⟨.next hj hjs, by rw [walk, hjs.length_eq, hwalk]⟩, ?_⟩
    rintro other ⟨hother, hwalk'⟩
    cases hother with
    | @next _ j' js' hj' hjs' =>
      rw [walk, hjs'.length_eq] at hwalk'
      -- the first draw is read off the place that it settles
      have hsettled : d[last + 1]? = xs[j']? := by
        rw [← hwalk', getElem?_walk_of_lt hjs' _ (Nat.lt_succ_self last)]
        exact getElem?_swapPlaces_left hlast (Nat.lt_of_le_of_lt hj' hlast)
      have hsame : j = j' := (List.getElem?_inj hjlt hnodup).1 (hplace.trans hsettled)
      subst hsame
      rw [huniq js' ⟨hjs', hwalk'⟩]

/-- Every order of a list without repetition is reached by exactly one vector of draws. -/
theorem existsUnique_walk {xs d : List α} (hne : xs ≠ []) (hnodup : xs.Nodup) (hperm : d.Perm xs) :
    ∃! js, Places (xs.length - 1) js ∧ walk js xs = d := by
  have hpos : 0 < xs.length := List.length_pos_iff.2 hne
  refine existsUnique_walk_of_agree (by omega) hnodup hperm fun k hk => ?_
  rw [List.getElem?_eq_none (by rw [hperm.length_eq]; omega), List.getElem?_eq_none (by omega)]

/-! ## Drawing the places -/

section Drawing

variable {σ : Type} [RandomSource σ]

theorem drawBelow_succ (bound fuel : Nat) (s : σ) :
    drawBelow bound (fuel + 1) s =
      if (RandomSource.next s).1.toNat * bound % UInt32.size ≤ acceptedLow bound then
        some ((RandomSource.next s).1.toNat * bound / UInt32.size, (RandomSource.next s).2)
      else drawBelow bound fuel (RandomSource.next s).2 :=
  rfl

theorem drawBelow_lt {bound fuel j : Nat} {s s' : σ} (hpos : 0 < bound)
    (h : drawBelow bound fuel s = some (j, s')) : j < bound := by
  induction fuel generalizing s with
  | zero => cases h
  | succ fuel ih =>
    rw [drawBelow_succ] at h
    split at h
    · simp only [Option.some.injEq, Prod.mk.injEq] at h
      rw [← h.1, Nat.div_lt_iff_lt_mul (by decide), Nat.mul_comm bound]
      exact Nat.mul_lt_mul_of_pos_right (UInt32.toNat_lt_size _) hpos
    · exact ih h

/-- Whatever the source, one shuffle draws a vector of places. -/
theorem drawPlaces_places {fuel last : Nat} {s s' : σ} {js : List Nat}
    (h : drawPlaces fuel last s = some (js, s')) : Places last js := by
  induction last generalizing s js with
  | zero =>
    cases h
    exact .none
  | succ last ih =>
    rw [drawPlaces, Option.bind_eq_some_iff] at h
    obtain ⟨⟨j, s₁⟩, hj, hrest⟩ := h
    obtain ⟨⟨js', s₂⟩, hjs, heq⟩ := Option.map_eq_some_iff.1 hrest
    cases heq
    exact .next (Nat.le_of_lt_succ (drawBelow_lt (Nat.succ_pos _) hj)) (ih hjs)

theorem drawBelow_drawn {bound fuel j : Nat} {c c' : Counted σ}
    (h : drawBelow bound fuel c = some (j, c')) : c.drawn < c'.drawn := by
  induction fuel generalizing c with
  | zero => cases h
  | succ fuel ih =>
    rw [drawBelow_succ] at h
    split at h
    · cases h
      exact Nat.lt_succ_self _
    · exact Nat.lt_trans (Nat.lt_succ_self _) (ih h)

/-- A shuffle draws at least one number for each place that it settles. -/
theorem drawPlaces_drawn {fuel last : Nat} {c c' : Counted σ} {js : List Nat}
    (h : drawPlaces fuel last c = some (js, c')) : c.drawn + last ≤ c'.drawn := by
  induction last generalizing c js with
  | zero =>
    cases h
    exact Nat.le_refl _
  | succ last ih =>
    rw [drawPlaces, Option.bind_eq_some_iff] at h
    obtain ⟨⟨j, c₁⟩, hj, hrest⟩ := h
    obtain ⟨⟨js', c₂⟩, hjs, heq⟩ := Option.map_eq_some_iff.1 hrest
    cases heq
    have hone : c.drawn < c₁.drawn := drawBelow_drawn hj
    have hothers : c₁.drawn + last ≤ c'.drawn := ih hjs
    omega

theorem shuffle_eq_some_iff {fuel : Nat} {xs ys : List α} {s s' : σ} :
    shuffle fuel xs s = some (ys, s') ↔
      ∃ js, drawPlaces fuel (xs.length - 1) s = some (js, s') ∧ walk js xs = ys := by
  rw [shuffle, Option.map_eq_some_iff]
  constructor
  · rintro ⟨⟨js, s₁⟩, hjs, heq⟩
    cases heq
    exact ⟨js, hjs, rfl⟩
  · rintro ⟨js, hjs, rfl⟩
    exact ⟨(js, s'), hjs, rfl⟩

end Drawing

/-! ## Every vector is drawn -/

/-- A number from which `j` is drawn below `bound`: the first one whose product with the bound has
`j` as its high half. -/
def numberFor (bound j : Nat) : Nat :=
  (j * UInt32.size + (bound - 1)) / bound

theorem le_acceptedLow (bound : Nat) : bound - 1 ≤ acceptedLow bound := by
  rw [acceptedLow, Nat.shiftLeft_eq]
  exact Nat.sub_le_sub_right (Nat.le_mul_of_pos_right _ (Nat.two_pow_pos _)) 1

theorem numberFor_spec {bound j : Nat} (hj : j < bound) (hbound : bound ≤ UInt32.size) :
    numberFor bound j < UInt32.size ∧ numberFor bound j * bound / UInt32.size = j ∧
      numberFor bound j * bound % UInt32.size ≤ acceptedLow bound := by
  have hsize : 0 < UInt32.size := by decide
  have hpos : 0 < bound := Nat.zero_lt_of_lt hj
  have hdiv := Nat.div_add_mod (j * UInt32.size + (bound - 1)) bound
  have hmod := Nat.mod_lt (j * UInt32.size + (bound - 1)) hpos
  have hcomm : numberFor bound j * bound =
      bound * ((j * UInt32.size + (bound - 1)) / bound) := Nat.mul_comm _ _
  -- the product lies at the start of the stretch of numbers with high half `j`
  have hlow : j * UInt32.size ≤ numberFor bound j * bound := by omega
  have hhigh : numberFor bound j * bound ≤ j * UInt32.size + (bound - 1) := by omega
  obtain ⟨low, heq⟩ := Nat.exists_eq_add_of_le hlow
  have hlt : low < UInt32.size := by omega
  have hlow' : low ≤ bound - 1 := by omega
  refine ⟨?_, ?_, ?_⟩
  · refine Nat.lt_of_mul_lt_mul_right (a := bound) ?_
    have hstep : (j + 1) * UInt32.size ≤ bound * UInt32.size := Nat.mul_le_mul_right _ hj
    rw [Nat.add_mul, Nat.one_mul] at hstep
    rw [Nat.mul_comm UInt32.size]
    omega
  · rw [heq, Nat.mul_comm, Nat.mul_add_div hsize, Nat.div_eq_of_lt hlt, Nat.add_zero]
  · rw [heq, Nat.mul_comm, Nat.mul_add_mod, Nat.mod_eq_of_lt hlt]
    exact Nat.le_trans hlow' (le_acceptedLow bound)

/-- Every vector is drawn by some source, for as many places as a bounded draw can tell apart. -/
theorem exists_numbers_of_places {last : Nat} {js : List Nat} (h : Places last js)
    (hlast : last < UInt32.size) :
    ∃ numbers : List UInt32, ∀ (state : UInt32) (drawn : Nat),
      drawPlaces 1 last (⟨⟨numbers, state⟩, drawn⟩ : Counted Listed) =
        some (js, ⟨⟨[], state⟩, drawn + last⟩) := by
  induction h with
  | none => exact ⟨[], fun _ _ => rfl⟩
  | @next last j js hj rest ih =>
    obtain ⟨numbers, hnumbers⟩ := ih (Nat.lt_of_succ_lt hlast)
    obtain ⟨hnumber, hhigh, hlow⟩ := numberFor_spec (Nat.lt_succ_of_le hj) hlast
    refine ⟨UInt32.ofNat (numberFor (last + 2) j) :: numbers, fun state drawn => ?_⟩
    have hone : drawBelow (last + 2) 1 (⟨⟨UInt32.ofNat (numberFor (last + 2) j) :: numbers, state⟩,
        drawn⟩ : Counted Listed) = some (j, ⟨⟨numbers, state⟩, drawn + 1⟩) := by
      have hvalue : (UInt32.ofNat (numberFor (last + 2) j)).toNat = numberFor (last + 2) j :=
        UInt32.toNat_ofNat_of_lt' hnumber
      rw [drawBelow_succ]
      simp only [RandomSource.next, hvalue, hhigh]
      rw [if_pos hlow]
    rw [drawPlaces, hone]
    simp only [Option.bind_some, hnumbers, Option.map_some]
    rw [Nat.add_right_comm, Nat.add_assoc]

end GiftExchange
