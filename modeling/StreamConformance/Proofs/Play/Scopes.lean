import StreamConformance.Proofs.Play.Basic

/-!
# Programs that hold scopes

A scenario of one's own may deliver signals, one inside the other, and may hold the scope of a
signal for as long as it likes. A scope that it still holds when it ends is left then, whichever way
it ends. So the marks of the thread are in the end what they were: the marks that were there before
stay behind those of the scopes that are held, and leaving a scope takes one of the latter.

## Main definitions

* `ScopedPlay` — programs that may hold scopes.
* `ScopedPlay.Composed` — the programs made of steps that deal fairly with the marks.
* `ScopedPlay.close` — the program that leaves in the end what is held.
* `Play.Scoped`, `Play.KeepsMarks` — such a program, and a program that leaves the marks as they
  are.

## Main results

* `ScopedPlay.Composed.covers` — the marks that were there before stay behind the others.
* `Play.Scoped.keepsMarks` — in the end they are the only ones.
-/

namespace StreamConformance

variable {α σ η ρ ρ' : Type}

/-- Programs that may hold scopes. Besides the run they know the kinds of the scopes that they have
entered and not left yet. -/
abbrev ScopedPlay (α σ η : Type) := ExceptT Halt (StateM (Run α σ η × List Signal))

namespace ScopedPlay

/-- Enters a scope. -/
def enter (s : Signal) : ScopedPlay α σ η Unit :=
  modify fun t => (Run.scopes.enter s t.1, s :: t.2)

/-- Leaves a scope of a kind, if one is held. -/
def leave (s : Signal) : ScopedPlay α σ η Unit :=
  modify fun t =>
    if s ∈ t.2 then (Run.scopes.leave s t.1, t.2.erase s) else t

/-- Anything else, which may read the marks and leaves them as they are. -/
def step (f : Run α σ η → List Signal → Except Halt ρ × Run α σ η) : ScopedPlay α σ η ρ :=
  ExceptT.mk fun t =>
    let d := f t.1 t.2
    (d.1, { d.2 with marks := t.1.marks }, t.2)

/-- The programs made of such steps, in which ends may also be caught. -/
inductive Composed : {ρ : Type} → ScopedPlay α σ η ρ → Prop where
  | step {ρ : Type} (f : Run α σ η → List Signal → Except Halt ρ × Run α σ η) : Composed (step f)
  | enter (s : Signal) : Composed (enter s)
  | leave (s : Signal) : Composed (leave s)
  | bind {ρ ρ' : Type} {x : ScopedPlay α σ η ρ} {f : ρ → ScopedPlay α σ η ρ'} :
      Composed x → (∀ a, Composed (f a)) → Composed (x >>= f)
  | caught {ρ : Type} {x : ScopedPlay α σ η ρ} {f : Halt → ScopedPlay α σ η ρ} :
      Composed x → (∀ h, Composed (f h)) → Composed (tryCatch x f)

/-- The program that leaves in the end the scopes that are still held. -/
def close (p : ScopedPlay α σ η ρ) : Play α σ η ρ :=
  ExceptT.mk fun r =>
    let d := p.run (r, [])
    (d.1, { d.2.1 with marks := d.2.2.foldl (fun m s => Marks.leave s m) d.2.1.marks })

/-- In front of the marks `base` there is one mark for each scope that is held. -/
def Covers (base : Marks) (t : Run α σ η × List Signal) : Prop :=
  ∃ front : Marks, t.1.marks = front ++ base ∧ front.Perm t.2

theorem leave_append {s : Signal} {front base : Marks} {held : List Signal}
    (hfront : front.Perm held) (hs : s ∈ held) :
    Marks.leave s (front ++ base) = front.erase s ++ base :=
  List.erase_append_left _ (hfront.mem_iff.mpr hs)

/-- When all that is held has been left, only the marks that were there before remain. -/
theorem foldl_leave {front : Marks} {held : List Signal} (hfront : front.Perm held)
    (base : Marks) : held.foldl (fun m s => Marks.leave s m) (front ++ base) = base := by
  induction held generalizing front with
  | nil => rw [hfront.eq_nil]; rfl
  | cons s held ih =>
    have hrest : (front.erase s).Perm held := by simpa using hfront.erase s
    rw [List.foldl_cons, leave_append hfront List.mem_cons_self]
    exact ih hrest

/-- Whatever a composed program does, and whichever way it ends, the marks that were there before
stay behind those of the scopes that are held. -/
theorem Composed.covers {p : ScopedPlay α σ η ρ} (hp : p.Composed) {base : Marks}
    {t : Run α σ η × List Signal} (ht : Covers base t) : Covers base (p.run t).2 := by
  induction hp generalizing t with
  | step f => exact ht
  | enter s =>
    obtain ⟨front, hmarks, hfront⟩ := ht
    exact ⟨s :: front, congrArg (s :: ·) hmarks, hfront.cons s⟩
  | leave s =>
    obtain ⟨front, hmarks, hfront⟩ := ht
    have hrun : ((ScopedPlay.leave s).run t).2 =
        if s ∈ t.2 then ({ t.1 with marks := Marks.leave s t.1.marks }, t.2.erase s) else t := rfl
    rw [hrun]
    split
    next hs => exact ⟨front.erase s, by rw [hmarks, leave_append hfront hs], hfront.erase s⟩
    next => exact ⟨front, hmarks, hfront⟩
  | @bind _ _ x f _ _ ihx ihf =>
    have hrun : (x >>= f).run t = match x.run t with
        | (.ok a, t) => (f a).run t
        | (.error h, t) => (.error h, t) := by
      simp only [ExceptT.run, Bind.bind, ExceptT.bind, ExceptT.mk, StateT.bind, ExceptT.bindCont]
      rcases x t with ⟨_ | a, t'⟩ <;> rfl
    have hx := ihx ht
    rw [hrun]
    rcases hr : x.run t with ⟨_ | a, t'⟩ <;> rw [hr] at hx
    · exact hx
    · exact ihf a hx
  | @caught _ x f _ _ ihx ihf =>
    have hrun : (tryCatch x f).run t = match x.run t with
        | (.ok a, t) => (.ok a, t)
        | (.error h, t) => (f h).run t := by
      simp only [ExceptT.run, tryCatch, tryCatchThe, MonadExceptOf.tryCatch, ExceptT.tryCatch,
        ExceptT.mk, Bind.bind, StateT.bind]
      rcases x t with ⟨_ | a, t'⟩ <;> rfl
    have hx := ihx ht
    rw [hrun]
    rcases hr : x.run t with ⟨h | _, t'⟩ <;> rw [hr] at hx
    · exact ihf h hx
    · exact hx

end ScopedPlay

namespace Play

/-- The program leaves the marks of the thread as they are, whichever way it ends. -/
def KeepsMarks (p : Play α σ η ρ) : Prop := ∀ r : Run α σ η, (p.on r).2.marks = r.marks

/-- The program holds scopes and leaves in the end those that it still holds. -/
def Scoped (p : Play α σ η ρ) : Prop := ∃ body : ScopedPlay α σ η ρ, body.Composed ∧ p = body.close

/-- A program that extends its run leaves the marks as they are. -/
theorem Extends.keepsMarks {p : Play α σ η ρ} (h : p.Extends) : p.KeepsMarks := by
  intro r
  obtain ⟨es, hes⟩ := h r
  exact hes.marks

/-- A program that holds scopes leaves the marks as they are. -/
theorem Scoped.keepsMarks {p : Play α σ η ρ} (h : p.Scoped) : p.KeepsMarks := by
  obtain ⟨body, hbody, rfl⟩ := h
  intro r
  obtain ⟨front, hmarks, hfront⟩ := hbody.covers (t := (r, [])) ⟨[], rfl, .refl _⟩
  have hrun : (body.close.on r).2.marks =
      (body.run (r, [])).2.2.foldl (fun m s => Marks.leave s m) (body.run (r, [])).2.1.marks := rfl
  rw [hrun, hmarks]
  exact ScopedPlay.foldl_leave hfront r.marks

end Play

end StreamConformance
