import StreamConformance.Proofs.Text.Tokens

/-!
# Reading JSON texts

The second pass goes through the tokens and builds the value. It keeps the lists and objects that
are open, and the value behind which it stands until it is known what becomes of the value: an item,
a member or the name of one. Brackets that do not match are not read, nor are commas and colons
where they do not belong.

## Main definitions

* `Json.Frame`, `Json.Place` — what is open, and where the pass stands.
* `Json.read?` — the value of a text.

## Main results

* `Json.Place.read_tokens` — the tokens of a value come to the value, whatever is open around it.
* `Json.read?_write` — what is written of a value is read back as the value.
-/

namespace StreamConformance.Json

/-- What is open. Items and members that are complete are kept with the last first. -/
inductive Frame where
  | list (items : List Json)
  | object (members : List (String × Json))
  /-- An object with a member that has a name, but no value yet. -/
  | member (name : String) (members : List (String × Json))

/-- Where the pass through the tokens stands: behind a value, or where one may begin. -/
structure Place where
  value? : Option Json
  /-- What is open, the innermost first. -/
  frames : List Frame

namespace Place

/-- Reads a token. -/
def step : Place → Token → Option Place
  | ⟨none, frames⟩, .text s => some ⟨some (text s), frames⟩
  | ⟨none, frames⟩, .number n => some ⟨some (number n), frames⟩
  | ⟨none, frames⟩, .sign '[' => some ⟨none, .list [] :: frames⟩
  | ⟨none, frames⟩, .sign '\x7b' => some ⟨none, .object [] :: frames⟩
  | ⟨some j, .list items :: frames⟩, .sign ',' => some ⟨none, .list (j :: items) :: frames⟩
  | ⟨some j, .member name members :: frames⟩, .sign ',' =>
    some ⟨none, .object ((name, j) :: members) :: frames⟩
  | ⟨some (text name), .object members :: frames⟩, .sign ':' =>
    some ⟨none, .member name members :: frames⟩
  | ⟨none, .list [] :: frames⟩, .sign ']' => some ⟨some (list []), frames⟩
  | ⟨some j, .list items :: frames⟩, .sign ']' =>
    some ⟨some (list (items.reverse ++ [j])), frames⟩
  | ⟨none, .object [] :: frames⟩, .sign '\x7d' => some ⟨some (object []), frames⟩
  | ⟨some j, .member name members :: frames⟩, .sign '\x7d' =>
    some ⟨some (object (members.reverse ++ [(name, j)])), frames⟩
  | _, _ => none

/-- Reads tokens one after the other. -/
def read (p : Place) (ts : List Token) : Option Place := ts.foldlM step p

theorem read_cons {p p' : Place} {t : Token} (h : p.step t = some p') (ts : List Token) :
    p.read (t :: ts) = p'.read ts := by
  rw [read, List.foldlM_cons, h]
  rfl

theorem read_append {p p' : Place} {ts : List Token} (h : p.read ts = some p')
    (ts' : List Token) : p.read (ts ++ ts') = p'.read ts' := by
  rw [read, List.foldlM_append, ← read, h]
  rfl

/-- Reads the pieces of a list or an object up to the closing bracket. `inside` is the frame that
has some pieces, `behind` the place behind a further piece, and `whole` the value of all. -/
theorem read_commas {α : Type} {tokensOf : α → List Token} {closing : Char}
    {inside : List α → Frame} (behind : α → List α → List Frame → Place) {whole : List α → Json}
    {xs : List α}
    (hpiece : ∀ x ∈ xs, ∀ done frames,
      read ⟨none, inside done :: frames⟩ (tokensOf x) = some (behind x done frames))
    (hcomma : ∀ x done frames,
      (behind x done frames).step (.sign ',') = some ⟨none, inside (x :: done) :: frames⟩)
    (hclose : ∀ x done frames, (behind x done frames).step (.sign closing) =
      some ⟨some (whole (done.reverse ++ [x])), frames⟩)
    (hxs : xs ≠ []) (done : List α) (frames : List Frame) :
    read ⟨none, inside done :: frames⟩
        ([.sign ','].intercalate (xs.map tokensOf) ++ [.sign closing]) =
      some ⟨some (whole (done.reverse ++ xs)), frames⟩ := by
  induction xs generalizing done with
  | nil => exact absurd rfl hxs
  | cons x rest ih =>
    obtain ⟨hx, hrest⟩ := List.forall_mem_cons.mp hpiece
    cases rest with
    | nil =>
      have hone : [.sign ','].intercalate ([x].map tokensOf) = tokensOf x := by simp
      rw [hone, read_append (hx done frames), read_cons (hclose x done frames)]
      rfl
    | cons y rest =>
      have hmore : [.sign ','].intercalate ((x :: y :: rest).map tokensOf) ++ [.sign closing] =
          tokensOf x ++ .sign ',' ::
            ([.sign ','].intercalate ((y :: rest).map tokensOf) ++ [.sign closing]) := by
        simp [List.intercalate_cons_cons]
      rw [hmore, read_append (hx done frames), read_cons (hcomma x done frames),
        ih hrest (List.cons_ne_nil y rest), List.reverse_cons, List.append_assoc,
        List.singleton_append]

/-- The tokens of a value come to the value, whatever is open around it. -/
theorem read_tokens (j : Json) (frames : List Frame) :
    read ⟨none, frames⟩ j.tokens = some ⟨some j, frames⟩ := by
  induction j using induct generalizing frames with
  | text s => rfl
  | number n => rfl
  | list items ih =>
    rw [tokens, itemTokens_eq_map, List.cons_append, read_cons rfl]
    cases items with
    | nil => rfl
    | cons j rest =>
      exact read_commas (fun j done frames => ⟨some j, .list done :: frames⟩)
        (fun j hj done frames => ih j hj (.list done :: frames)) (fun _ _ _ => rfl)
        (fun _ _ _ => rfl) (List.cons_ne_nil j rest) [] frames
  | object members ih =>
    rw [tokens, memberTokens_eq_map, List.cons_append, read_cons rfl]
    cases members with
    | nil => rfl
    | cons m rest =>
      refine read_commas (fun m done frames => ⟨some m.2, .member m.1 done :: frames⟩)
        ?_ (fun _ _ _ => rfl) (fun _ _ _ => rfl) (List.cons_ne_nil m rest) [] frames
      intro m hm done frames
      rw [read_cons rfl, read_cons rfl]
      exact ih m hm (.member m.1 done :: frames)

end Place

/-- The value that the tokens come to, if nothing remains open. -/
def ofTokens? (ts : List Token) : Option Json :=
  match Place.read ⟨none, []⟩ ts with
  | some ⟨some j, []⟩ => some j
  | _ => none

/-- The value of a JSON text. -/
def read? (s : String) : Option Json := (tokens? s.toList).bind ofTokens?

theorem ofTokens?_tokens (j : Json) : ofTokens? j.tokens = some j := by
  rw [ofTokens?, Place.read_tokens]

theorem read?_of_lays {s : String} {j : Json} (h : Lays s.toList j.tokens) : read? s = some j := by
  rw [read?, tokens?_of_lays h (separated_tokens j), Option.bind_some, ofTokens?_tokens]

/-- What is written of a value is read back as the value. -/
theorem read?_write {write : Json → String} (hwrite : Writes write) (j : Json) :
    read? (write j) = some j :=
  read?_of_lays (hwrite j)

/-- Texts that are laid out in other ways are read too. -/
example : read? "[ \"\\u0041\" ,20,[] ]" = some (.list [.text "A", .number 20, .list []]) := rfl

example : read? "[1,]" = none := rfl

end StreamConformance.Json
