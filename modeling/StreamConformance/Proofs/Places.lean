import Mathlib.Data.Option.Basic

/-!
# Lists in which one place changes

What threads have done so far stands in lists, one place for each thread, and a step changes one
place. This module says what remains of a selection from such a list, and that a selection without
repetitions selects from no two places the same.
-/

namespace StreamConformance.Places

variable {σ β : Type} {l : List σ} {i j : Nat} {x y : σ}

theorem modify_eq_set (hx : l[i]? = some x) (g : σ → σ) : l.modify i g = l.set i (g x) := by
  obtain ⟨hlt, hget⟩ := List.getElem?_eq_some_iff.mp hx
  refine List.ext_getElem? fun j => ?_
  rw [List.getElem?_modify, List.getElem?_set]
  split
  next hj => simp [← hj, hlt, hget]
  next => simp

theorem modify_concat (l : List σ) (x : σ) (g : σ → σ) :
    (l ++ [x]).modify l.length g = l ++ [g x] := by
  rw [modify_eq_set List.getElem?_concat_length, List.set_append_right _ _ (Nat.le_refl _),
    Nat.sub_self]
  rfl

/-- The sum of what `f` says of all places. -/
def sum (f : σ → Nat) (l : List σ) : Nat := l.foldr (fun x n => f x + n) 0

theorem sum_set (hx : l[i]? = some x) (f : σ → Nat) (y : σ) :
    sum f (l.set i y) + f x = sum f l + f y := by
  induction l generalizing i with
  | nil => simp at hx
  | cons z l ih =>
    cases i with
    | zero =>
      obtain rfl := Option.some.inj hx
      simp only [List.set_cons_zero, sum, List.foldr_cons]
      omega
    | succ i =>
      have htail := ih hx
      simp only [List.set_cons_succ, sum, List.foldr_cons] at htail ⊢
      omega

theorem filterMap_set (hx : l[i]? = some x) (f : σ → Option β) (y : σ) :
    (l.set i y).filterMap f =
      (l.take i).filterMap f ++ ((f y).toList ++ (l.drop (i + 1)).filterMap f) := by
  have hlt : i < l.length := (List.getElem?_eq_some_iff.mp hx).1
  rw [List.set_eq_take_append_cons_drop, if_pos hlt, List.filterMap_append, List.filterMap_cons]
  cases f y <;> rfl

theorem filterMap_eq (hx : l[i]? = some x) (f : σ → Option β) :
    l.filterMap f = (l.take i).filterMap f ++ ((f x).toList ++ (l.drop (i + 1)).filterMap f) := by
  obtain ⟨hlt, hget⟩ := List.getElem?_eq_some_iff.mp hx
  have hset : l.set i x = l := hget ▸ List.set_getElem_self hlt
  rw [← filterMap_set hx f x, hset]

/-- A selection stays as it is if the same is selected from the place that changes. -/
theorem filterMap_set_of_eq (hx : l[i]? = some x) {f : σ → Option β} (h : f y = f x) :
    (l.set i y).filterMap f = l.filterMap f := by
  rw [filterMap_set hx, h, filterMap_eq hx]

/-- A selection grows by what is selected from the place that changes, if nothing was before. -/
theorem filterMap_set_perm (hx : l[i]? = some x) {f : σ → Option β} (h : f x = none) (y : σ) :
    ((l.set i y).filterMap f).Perm (l.filterMap f ++ (f y).toList) := by
  rw [filterMap_set hx, filterMap_eq hx, h, Option.toList_none, List.nil_append, List.append_assoc]
  exact List.perm_append_comm.append_left _

/-- If all that is selected is related, what is not related is not selected from two places. -/
theorem eq_of_pairwise {f : σ → Option β} {R : β → β → Prop} (h : (l.filterMap f).Pairwise R)
    (hx : l[i]? = some x) (hy : l[j]? = some y) {a b : β} (ha : f x = some a) (hb : f y = some b)
    (hab : ¬R a b) (hba : ¬R b a) : i = j := by
  rw [List.pairwise_filterMap, List.pairwise_iff_getElem] at h
  obtain ⟨hi, rfl⟩ := List.getElem?_eq_some_iff.mp hx
  obtain ⟨hj, rfl⟩ := List.getElem?_eq_some_iff.mp hy
  rcases Nat.lt_trichotomy i j with hlt | heq | hlt
  · exact absurd (h i j hi hj hlt a ha b hb) hab
  · exact heq
  · exact absurd (h j i hj hi hlt b hb a ha) hba

/-- A selection without repetitions selects from no two places the same. -/
theorem eq_of_nodup {f : σ → Option β} (h : (l.filterMap f).Nodup) (hx : l[i]? = some x)
    (hy : l[j]? = some y) {a : β} (ha : f x = some a) (hb : f y = some a) : i = j :=
  eq_of_pairwise h hx hy ha hb (fun hne => hne rfl) fun hne => hne rfl

theorem eq_of_length_le_one {f : σ → Option β} (h : (l.filterMap f).length ≤ 1)
    (hx : l[i]? = some x) (hy : l[j]? = some y) (ha : f x ≠ none) (hb : f y ≠ none) : i = j := by
  obtain ⟨a, ha⟩ := Option.ne_none_iff_exists'.mp ha
  obtain ⟨b, hb⟩ := Option.ne_none_iff_exists'.mp hb
  refine eq_of_pairwise (R := fun _ _ => False) ?_ hx hy ha hb id id
  match l.filterMap f, h with
  | [], _ => exact List.Pairwise.nil
  | [_], _ => exact List.pairwise_singleton ..

/-- What is selected is as long as a list of the places that it is selected from. -/
theorem length_filter {P : σ → Bool} {places : List Nat} (hnodup : places.Nodup)
    (hmem : ∀ k, k ∈ places ↔ l[k]?.any P = true) : (l.filter P).length = places.length := by
  have hall : (List.range l.length).map (l[·]?) = l.map some :=
    List.ext_getElem (by simp) fun k h h' => by simp
  have hperm : places.Perm ((List.range l.length).filter fun k => l[k]?.any P) := by
    refine (List.perm_ext_iff_of_nodup hnodup (List.nodup_range.filter _)).mpr fun k => ?_
    rw [hmem, List.mem_filter, List.mem_range]
    refine ⟨fun h => ⟨?_, h⟩, And.right⟩
    obtain ⟨x, hx, -⟩ := Option.any_eq_true _ _ |>.mp h
    exact (List.getElem?_eq_some_iff.mp hx).1
  have hlength := congrArg (fun places => (places.filter (Option.any P)).length) hall
  rw [hperm.length_eq]
  simpa only [List.filter_map, List.length_map, Function.comp_def, Option.any_some]
    using hlength.symm

end StreamConformance.Places
