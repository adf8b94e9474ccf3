import StreamConformance.Text.Json

/-!
# The tokens of JSON texts

A JSON text consists of tokens: texts, numbers and signs, with spaces wherever they may stand. How
each token is written is fixed, where the spaces are is up to the writer. The tokens are found again
by one pass through the characters, in which spaces between tokens are lost.

A number ends where something follows that is not a digit. This is why it matters that in a value no
two numbers stand side by side.

## Main definitions

* `Json.Token`, `Json.tokens` — the tokens, and those of a value.
* `Json.Token.chars`, `Json.Lays` — what stands for a token, and a text of tokens with spaces.
* `Json.Writes` — a function that writes values in this way.
* `Json.Scan`, `Json.tokens?` — the pass through the characters.

## Main results

* `Json.tokens?_of_lays` — the tokens are found again, wherever the spaces are.
* `Json.separated_tokens` — the tokens of a value can be told apart.
* `Json.writes_compact`, `Json.writes_indented` — both layouts are of this kind.
-/

namespace StreamConformance.Json

/-! ### Values -/

/-- What holds of a list or an object whenever it holds of what is inside holds of all values. -/
@[elab_as_elim]
theorem induct {P : Json → Prop} (text : ∀ s, P (text s)) (number : ∀ n, P (number n))
    (list : ∀ items, (∀ j ∈ items, P j) → P (list items))
    (object : ∀ members, (∀ m ∈ members, P m.2) → P (object members)) (j : Json) : P j :=
  @Json.rec P (fun items => ∀ j ∈ items, P j) (fun members => ∀ m ∈ members, P m.2)
    (fun m => P m.2) text number list object
    (fun _ h => nomatch h) (fun _ _ hj hrest => List.forall_mem_cons.mpr ⟨hj, hrest⟩)
    (fun _ h => nomatch h) (fun _ _ hm hrest => List.forall_mem_cons.mpr ⟨hm, hrest⟩)
    (fun _ _ h => h) j

theorem compactItems_eq_map (items : List Json) : compactItems items = items.map compactChars := by
  induction items with
  | nil => rfl
  | cons j rest ih => rw [compactItems, ih, List.map_cons]

theorem compactMembers_eq_map (members : List (String × Json)) :
    compactMembers members = members.map fun m => quote m.1 ++ ':' :: compactChars m.2 := by
  induction members with
  | nil => rfl
  | cons m rest ih => rw [compactMembers, ih, List.map_cons]

theorem indentedItems_eq_map (level : Nat) (items : List Json) :
    indentedItems level items = items.map (indentedChars level) := by
  induction items with
  | nil => rfl
  | cons j rest ih => rw [indentedItems, ih, List.map_cons]

theorem indentedMembers_eq_map (level : Nat) (members : List (String × Json)) :
    indentedMembers level members =
      members.map fun m => quote m.1 ++ [':', ' '] ++ indentedChars level m.2 := by
  induction members with
  | nil => rfl
  | cons m rest ih => rw [indentedMembers, ih, List.map_cons]

/-! ### Tokens -/

/-- What a JSON text consists of. -/
inductive Token where
  | text (s : String)
  | number (n : Nat)
  /-- A bracket, a brace, a comma or a colon. -/
  | sign (c : Char)
  deriving DecidableEq

mutual

/-- The tokens of a value. -/
def tokens : Json → List Token
  | text s => [.text s]
  | number n => [.number n]
  | list items => .sign '[' :: [.sign ','].intercalate (itemTokens items) ++ [.sign ']']
  | object members =>
    .sign '\x7b' :: [.sign ','].intercalate (memberTokens members) ++ [.sign '\x7d']

/-- The tokens of each item of a list. -/
def itemTokens : List Json → List (List Token)
  | [] => []
  | j :: rest => tokens j :: itemTokens rest

/-- The tokens of each member of an object. -/
def memberTokens : List (String × Json) → List (List Token)
  | [] => []
  | (name, j) :: rest => (.text name :: .sign ':' :: tokens j) :: memberTokens rest

end

theorem itemTokens_eq_map (items : List Json) : itemTokens items = items.map tokens := by
  induction items with
  | nil => rfl
  | cons j rest ih => rw [itemTokens, ih, List.map_cons]

theorem memberTokens_eq_map (members : List (String × Json)) :
    memberTokens members = members.map fun m => .text m.1 :: .sign ':' :: tokens m.2 := by
  induction members with
  | nil => rfl
  | cons m rest ih => rw [memberTokens, ih, List.map_cons]

/-! ### Texts of tokens -/

/-- The signs. -/
def signs : List Char := ['[', ']', '\x7b', '\x7d', ',', ':']

/-- The spaces. -/
def spaces : List Char := [' ', '\n', '\r', '\t']

/-- What stands for a token in a text: texts are quoted and escaped, numbers are written by their
decimal digits. -/
def Token.chars : Token → List Char
  | text s => quote s
  | number n => Nat.toDigits 10 n
  | sign c => [c]

/-- The characters are those of the tokens, one after the other, with any spaces before, between and
behind them. -/
inductive Lays : List Char → List Token → Prop
  | nil : Lays [] []
  | space {c : Char} {cs : List Char} {ts : List Token} (hc : c ∈ spaces) (h : Lays cs ts) :
    Lays (c :: cs) ts
  | token {cs : List Char} {ts : List Token} (t : Token) (h : Lays cs ts) :
    Lays (t.chars ++ cs) (t :: ts)

/-- A function that writes values: it writes the tokens of a value in order, with spaces where it
likes. -/
def Writes (write : Json → String) : Prop := ∀ j, Lays (write j).toList j.tokens

namespace Lays

variable {cs cs' : List Char} {ts ts' : List Token}

theorem append (h : Lays cs ts) (h' : Lays cs' ts') : Lays (cs ++ cs') (ts ++ ts') := by
  induction h with
  | nil => exact h'
  | space hc _ ih => exact ih.space hc
  | token t _ ih => exact List.append_assoc .. ▸ ih.token t

theorem single (t : Token) : Lays t.chars [t] := List.append_nil t.chars ▸ nil.token t

theorem of_spaces (h : ∀ c ∈ cs, c ∈ spaces) : Lays cs [] := by
  induction cs with
  | nil => exact nil
  | cons c cs ih =>
    rw [List.forall_mem_cons] at h
    exact (ih h.2).space h.1

theorem brackets (h : Lays cs ts) (opening closing : Char) :
    Lays (opening :: cs ++ [closing]) (.sign opening :: ts ++ [.sign closing]) :=
  (h.token (.sign opening)).append (single (.sign closing))

theorem commas {α : Type} {f : α → List Char} {g : α → List Token} {xs : List α}
    {separator : List Char} (hseparator : Lays separator [.sign ','])
    (h : ∀ x ∈ xs, Lays (f x) (g x)) :
    Lays (Json.commas separator (xs.map f)) ([.sign ','].intercalate (xs.map g)) := by
  induction xs with
  | nil => exact nil
  | cons x rest ih =>
    obtain ⟨hx, hrest⟩ := List.forall_mem_cons.mp h
    cases rest with
    | nil => simpa [Json.commas] using hx
    | cons y rest =>
      simp only [List.map_cons, Json.commas, List.intercalate_cons_cons]
      exact (hx.append hseparator).append (ih hrest)

end Lays

/-! ### The two layouts -/

theorem lays_compactChars (j : Json) : Lays j.compactChars j.tokens := by
  have hcomma : Lays [','] [.sign ','] := .single (.sign ',')
  induction j using induct with
  | text s => exact .single (.text s)
  | number n => exact .single (.number n)
  | list items ih =>
    rw [compactChars, tokens, compactItems_eq_map, itemTokens_eq_map]
    exact (Lays.commas hcomma ih).brackets '[' ']'
  | object members ih =>
    rw [compactChars, tokens, compactMembers_eq_map, memberTokens_eq_map]
    have hmember : ∀ m ∈ members, Lays (quote m.1 ++ ':' :: compactChars m.2)
        (.text m.1 :: .sign ':' :: tokens m.2) := fun m hm =>
      ((ih m hm).token (.sign ':')).token (.text m.1)
    exact (Lays.commas hcomma hmember).brackets '\x7b' '\x7d'

theorem lays_newline (level : Nat) : Lays (newline level) [] := by
  refine .of_spaces fun c hc => ?_
  rcases List.mem_cons.mp hc with rfl | hc
  · decide
  · rw [List.eq_of_mem_replicate hc]
    decide

theorem lays_block {α : Type} {f : α → List Char} {g : α → List Token} {xs : List α}
    (opening closing : Char) (level : Nat) (h : ∀ x ∈ xs, Lays (f x) (g x)) :
    Lays (block level opening closing (xs.map f))
      (.sign opening :: [.sign ','].intercalate (xs.map g) ++ [.sign closing]) := by
  have hnewline (c : Char) : Lays (c :: newline (level + 1)) [.sign c] :=
    (lays_newline (level + 1)).token (.sign c)
  cases xs with
  | nil => exact Lays.nil.brackets opening closing
  | cons x rest =>
    have hblock := (((hnewline opening).append (Lays.commas (hnewline ',') h)).append
      (lays_newline level)).append (Lays.single (.sign closing))
    simpa [block, Token.chars] using hblock

theorem lays_indentedChars (level : Nat) (j : Json) : Lays (j.indentedChars level) j.tokens := by
  induction j using induct generalizing level with
  | text s => exact .single (.text s)
  | number n => exact .single (.number n)
  | list items ih =>
    rw [indentedChars, tokens, indentedItems_eq_map, itemTokens_eq_map]
    exact lays_block '[' ']' level fun j hj => ih j hj (level + 1)
  | object members ih =>
    rw [indentedChars, tokens, indentedMembers_eq_map, memberTokens_eq_map]
    have hmember : ∀ m ∈ members, Lays (quote m.1 ++ [':', ' '] ++ indentedChars (level + 1) m.2)
        (.text m.1 :: .sign ':' :: tokens m.2) := by
      intro m hm
      have hvalue := (ih m hm (level + 1)).space (c := ' ') (by decide)
      exact List.append_assoc .. ▸ (hvalue.token (.sign ':')).token (.text m.1)
    exact lays_block '\x7b' '\x7d' level hmember

/-- The compact layout writes the tokens of a value without any space. -/
theorem writes_compact : Writes compact := fun j => by
  rw [compact, String.toList_ofList]
  exact lays_compactChars j

theorem writes_indented : Writes indented := fun j => by
  rw [indented, String.toList_ofList]
  exact lays_indentedChars 0 j

/-! ### The pass through the characters -/

/-- Where the pass stands. What has been read of a text is kept with the last character first. -/
inductive Scan where
  | between
  | inText (seen : List Char)
  /-- Behind a backslash. -/
  | inEscape (seen : List Char)
  /-- In an escape by number, with so many digits left behind the next one. -/
  | inCode (seen : List Char) (left value : Nat)
  | inNumber (n : Nat)

/-- The character for which a short escape stands. -/
def unescape? (c : Char) : Option Char :=
  if c = '"' then some '"'
  else if c = '\\' then some '\\'
  else if c = '/' then some '/'
  else if c = 'b' then some '\x08'
  else if c = 'f' then some '\x0c'
  else if c = 'n' then some '\n'
  else if c = 'r' then some '\r'
  else if c = 't' then some '\t'
  else none

/-- The value of a hexadecimal digit. -/
def hexDigit? (c : Char) : Option Nat :=
  if '0' ≤ c ∧ c ≤ '9' then some (c.toNat - 48)
  else if 'a' ≤ c ∧ c ≤ 'f' then some (c.toNat - 87)
  else if 'A' ≤ c ∧ c ≤ 'F' then some (c.toNat - 55)
  else none

/-- The character with a number of four hexadecimal digits, if it is one. -/
def scalar? (n : Nat) : Option Char :=
  if n < 0xd800 ∨ 0xdfff < n then some (Char.ofNat n) else none

namespace Scan

/-- Reads a character between two tokens. -/
def start (c : Char) : Option (Scan × List Token) :=
  if c = '"' then some (inText [], [])
  else if c.isDigit then some (inNumber (c.toNat - '0'.toNat), [])
  else if c ∈ spaces then some (between, [])
  else if c ∈ signs then some (between, [.sign c])
  else none

/-- Reads a character: where the pass stands then, and the tokens that it has made. -/
def step : Scan → Char → Option (Scan × List Token)
  | between, c => start c
  | inText seen, c =>
    if c = '"' then some (between, [.text (String.ofList seen.reverse)])
    else if c = '\\' then some (inEscape seen, [])
    else if c.toNat < 32 then none
    else some (inText (c :: seen), [])
  | inEscape seen, c =>
    if c = 'u' then some (inCode seen 3 0, [])
    else (unescape? c).map fun d => (inText (d :: seen), [])
  | inCode seen 0 value, c =>
    (hexDigit? c).bind fun d => (scalar? (16 * value + d)).map fun c => (inText (c :: seen), [])
  | inCode seen (left + 1) value, c =>
    (hexDigit? c).map fun d => (inCode seen left (16 * value + d), [])
  | inNumber n, c =>
    if c.isDigit then some (inNumber (10 * n + (c.toNat - '0'.toNat)), [])
    else (start c).map fun r => (r.1, .number n :: r.2)

/-- The tokens made at the end of the text, which must not be inside a text. -/
def stop : Scan → Option (List Token)
  | between => some []
  | inNumber n => some [.number n]
  | _ => none

/-- The tokens made of the characters that are left. -/
def read : Scan → List Char → Option (List Token)
  | scan, [] => scan.stop
  | scan, c :: rest => (scan.step c).bind fun r => (r.1.read rest).map (r.2 ++ ·)

end Scan

/-- The tokens of a JSON text. -/
def tokens? (cs : List Char) : Option (List Token) := Scan.between.read cs

/-! ### What the pass finds -/

theorem Scan.read_cons {scan scan' : Scan} {c : Char} {ts : List Token}
    (h : scan.step c = some (scan', ts)) (rest : List Char) :
    scan.read (c :: rest) = (scan'.read rest).map (ts ++ ·) := by
  rw [Scan.read, h, Option.bind_some]

theorem Scan.read_silent {scan : Scan} (scan' : Scan) {c : Char}
    (h : scan.step c = some (scan', [])) (rest : List Char) :
    scan.read (c :: rest) = scan'.read rest := by
  rw [Scan.read_cons h]
  cases scan'.read rest <;> rfl

theorem tokens?_space {c : Char} (hc : c ∈ spaces) (cs : List Char) :
    tokens? (c :: cs) = tokens? cs := by
  simp only [spaces, List.mem_cons, List.not_mem_nil, or_false] at hc
  rcases hc with rfl | rfl | rfl | rfl <;> exact Scan.read_silent .between rfl cs

theorem tokens?_sign {c : Char} (hc : c ∈ signs) (cs : List Char) :
    tokens? (c :: cs) = (tokens? cs).map (.sign c :: ·) := by
  have hstep : Scan.between.step c = some (.between, [.sign c]) := by
    simp only [signs, List.mem_cons, List.not_mem_nil, or_false] at hc
    rcases hc with rfl | rfl | rfl | rfl | rfl | rfl <;> rfl
  exact Scan.read_cons hstep cs

/-! ### Texts -/

theorem hexDigit?_digitChar : ∀ d < 16, hexDigit? (Nat.digitChar d) = some d := by decide

theorem Scan.read_short {seen : List Char} {e c : Char}
    (h : (inEscape seen).step e = some (inText (c :: seen), [])) (rest : List Char) :
    (inText seen).read ('\\' :: e :: rest) = (inText (c :: seen)).read rest := by
  rw [read_silent (inEscape seen) rfl, read_silent _ h]

theorem Scan.read_code {seen : List Char} {c : Char} (h : c.toNat < 32) (rest : List Char) :
    (inText seen).read ('\\' :: 'u' :: '0' :: '0' :: Nat.digitChar (c.toNat / 16) ::
      Nat.digitChar (c.toNat % 16) :: rest) = (inText (c :: seen)).read rest := by
  have hhigh : (inCode seen 1 0).step (Nat.digitChar (c.toNat / 16)) =
      some (inCode seen 0 (c.toNat / 16), []) := by
    simp [step, hexDigit?_digitChar (c.toNat / 16) (by omega)]
  have hlow : (inCode seen 0 (c.toNat / 16)).step (Nat.digitChar (c.toNat % 16)) =
      some (inText (c :: seen), []) := by
    have hscalar : scalar? c.toNat = some c := by
      rw [scalar?, if_pos (by omega), Char.ofNat_toNat]
    simp [step, hexDigit?_digitChar (c.toNat % 16) (by omega), Nat.div_add_mod, hscalar]
  rw [read_silent (inEscape seen) rfl, read_silent (inCode seen 3 0) rfl,
    read_silent (inCode seen 2 0) rfl, read_silent (inCode seen 1 0) rfl,
    read_silent _ hhigh, read_silent _ hlow]

theorem Scan.read_escape (seen : List Char) (c : Char) (rest : List Char) :
    (inText seen).read (escape c ++ rest) = (inText (c :: seen)).read rest := by
  unfold escape
  split
  next h => subst h; exact read_short rfl rest
  next hquote =>
    split
    next h => subst h; exact read_short rfl rest
    next hbackslash =>
      -- The other short escapes differ only in their letters.
      iterate 5
        split
        next h => subst h; exact read_short rfl rest
      split
      next hcontrol => exact read_code hcontrol rest
      next hplain => exact read_silent _ (by simp [step, hquote, hbackslash, hplain]) rest

theorem Scan.read_flatMap_escape (cs seen rest : List Char) :
    (inText seen).read (cs.flatMap escape ++ rest) = (inText (cs.reverse ++ seen)).read rest := by
  induction cs generalizing seen with
  | nil => rfl
  | cons c cs ih =>
    rw [List.flatMap_cons, List.append_assoc, read_escape, ih, List.reverse_cons,
      List.append_assoc, List.singleton_append]

theorem tokens?_quote (s : String) (cs : List Char) :
    tokens? (quote s ++ cs) = (tokens? cs).map (.text s :: ·) := by
  have hend : (Scan.inText s.toList.reverse).step '"' = some (.between, [.text s]) := by
    simp [Scan.step]
  have hquote : quote s ++ cs = '"' :: (s.toList.flatMap escape ++ '"' :: cs) := by
    simp [quote]
  rw [tokens?, hquote, Scan.read_silent (.inText []) rfl, Scan.read_flatMap_escape,
    List.append_nil, Scan.read_cons hend, tokens?]
  rfl

/-! ### Numbers -/

/-- Nothing, or something that does not begin with a digit. -/
def Halts (cs : List Char) : Prop := ∀ c ∈ cs.head?, ¬ c.isDigit

/-- In a number, digits carry it on, and it ends in front of anything else. -/
theorem Scan.read_digits {ds rest : List Char} (hds : ∀ c ∈ ds, c.isDigit) (hrest : Halts rest)
    (n : Nat) : (inNumber n).read (ds ++ rest) =
      (tokens? rest).map (.number (Nat.ofDigitChars 10 ds n) :: ·) := by
  induction ds generalizing n with
  | nil =>
    -- The character that ends the number is read as if it stood between two tokens.
    cases rest with
    | nil => rfl
    | cons c rest =>
      have hc : ¬ c.isDigit := hrest c rfl
      rw [List.nil_append, Json.tokens?, read, read, step, step, if_neg hc]
      cases start c <;> simp [Function.comp_def]
  | cons c ds ih =>
    obtain ⟨hc, hds⟩ := List.forall_mem_cons.mp hds
    have hstep : (inNumber n).step c = some (inNumber (10 * n + (c.toNat - '0'.toNat)), []) :=
      if_pos hc
    rw [List.cons_append, read_silent _ hstep, ih hds, Nat.ofDigitChars_cons]

/-- The digits of a number come to the number, unless others follow. -/
theorem tokens?_toDigits (n : Nat) {cs : List Char} (hcs : Halts cs) :
    tokens? (Nat.toDigits 10 n ++ cs) = (tokens? cs).map (.number n :: ·) := by
  have hdigits : ∀ c ∈ Nat.toDigits 10 n, c.isDigit := fun c hc =>
    Nat.isDigit_of_mem_toDigits (by decide) (by decide) hc
  have hvalue := Nat.ofDigitChars_ten_toDigits (n := n)
  cases hds : Nat.toDigits 10 n with
  | nil => exact absurd hds Nat.toDigits_ne_nil
  | cons d ds =>
    rw [hds] at hdigits hvalue
    obtain ⟨hd, hrest⟩ := List.forall_mem_cons.mp hdigits
    have hquote : d ≠ '"' := by
      rintro rfl
      cases hd
    have hstart : Scan.between.step d = some (.inNumber (d.toNat - '0'.toNat), []) := by
      simp [Scan.step, Scan.start, hquote, hd]
    rw [Nat.ofDigitChars_cons, Nat.mul_zero, Nat.zero_add] at hvalue
    rw [tokens?, List.cons_append, Scan.read_silent _ hstart, Scan.read_digits hrest hcs, hvalue]

/-! ### Tokens that can be told apart -/

/-- No number is the first token. -/
def NoNumberFirst (ts : List Token) : Prop := ∀ n, ts.head? ≠ some (.number n)

/-- The tokens can be told apart without spaces: a number does not follow a number, and the signs
are signs. -/
def Separated : List Token → Prop
  | [] => True
  | .text _ :: ts => Separated ts
  | .sign c :: ts => c ∈ signs ∧ Separated ts
  | .number _ :: ts => NoNumberFirst ts ∧ Separated ts

/-- A text does not begin with a digit if it begins with a space or with another token than a
number. -/
theorem Lays.halts {cs : List Char} {ts : List Token} (h : Lays cs ts) (hts : Separated ts)
    (hfirst : NoNumberFirst ts) : Halts cs := by
  cases h with
  | nil => exact nofun
  | @space c _ _ hc _ =>
    have hspaces : ∀ c ∈ spaces, ¬ c.isDigit := by simp [spaces, Char.isDigit]
    simpa [Halts] using hspaces c hc
  | token t _ =>
    cases t with
    | text s => simp [Halts, Token.chars, quote]
    | number n => exact absurd rfl (hfirst n)
    | sign c =>
      have hsigns : ∀ c ∈ signs, ¬ c.isDigit := by simp [signs, Char.isDigit]
      simpa [Halts, Token.chars] using hsigns c hts.1

/-- The tokens of a text are found again, wherever its spaces are. -/
theorem tokens?_of_lays {cs : List Char} {ts : List Token} (h : Lays cs ts)
    (hts : Separated ts) : tokens? cs = some ts := by
  induction h with
  | nil => rfl
  | space hc _ ih => rw [tokens?_space hc, ih hts]
  | token t h ih =>
    cases t with
    | text s => rw [Token.chars, tokens?_quote, ih hts, Option.map_some]
    | number n =>
      rw [Token.chars, tokens?_toDigits n (h.halts hts.2 hts.1), ih hts.2, Option.map_some]
    | sign c =>
      rw [Token.chars, List.singleton_append, tokens?_sign hts.1, ih hts.2, Option.map_some]

/-- Pieces with commas between them are separated if each of them is in front of anything but a
number. -/
theorem separated_commas {α : Type} {g : α → List Token} {xs : List α}
    (h : ∀ x ∈ xs, ∀ rest, NoNumberFirst rest → Separated rest → Separated (g x ++ rest))
    {rest : List Token} (hfirst : NoNumberFirst rest) (hrest : Separated rest) :
    Separated ([.sign ','].intercalate (xs.map g) ++ rest) := by
  induction xs with
  | nil => exact hrest
  | cons x xs ih =>
    obtain ⟨hx, hxs⟩ := List.forall_mem_cons.mp h
    cases xs with
    | nil => simpa using hx rest hfirst hrest
    | cons y ys =>
      have hmore : Separated (.sign ',' :: ([.sign ','].intercalate ((y :: ys).map g) ++ rest)) :=
        ⟨by decide, ih hxs⟩
      have hcomma := hx _ (by simp [NoNumberFirst]) hmore
      simpa [List.intercalate_cons_cons] using hcomma

/-- The tokens of a value are separated in front of anything but a number. -/
theorem separated_tokens_append (j : Json) {rest : List Token} (hfirst : NoNumberFirst rest)
    (hrest : Separated rest) : Separated (j.tokens ++ rest) := by
  have hclose (c : Char) (hc : c ∈ signs) (rest : List Token) (hrest : Separated rest) :
      NoNumberFirst (.sign c :: rest) ∧ Separated (.sign c :: rest) :=
    ⟨by simp [NoNumberFirst], hc, hrest⟩
  induction j using induct generalizing rest with
  | text s => exact hrest
  | number n => exact ⟨hfirst, hrest⟩
  | list items ih =>
    obtain ⟨hsign, hend⟩ := hclose ']' (by decide) rest hrest
    have hitems := separated_commas (fun j hj _ hfirst hrest => ih j hj hfirst hrest) hsign hend
    rw [tokens, itemTokens_eq_map, List.cons_append, List.cons_append, List.append_assoc]
    exact ⟨by decide, hitems⟩
  | object members ih =>
    obtain ⟨hsign, hend⟩ := hclose '\x7d' (by decide) rest hrest
    have hmember : ∀ m ∈ members, ∀ rest, NoNumberFirst rest → Separated rest →
        Separated ((.text m.1 :: .sign ':' :: tokens m.2) ++ rest) :=
      fun m hm rest hfirst hrest => ⟨by decide, ih m hm hfirst hrest⟩
    have hmembers := separated_commas hmember hsign hend
    rw [tokens, memberTokens_eq_map, List.cons_append, List.cons_append, List.append_assoc]
    exact ⟨by decide, hmembers⟩

/-- The tokens of a value can be told apart. -/
theorem separated_tokens (j : Json) : Separated j.tokens := by
  have hend : Separated (j.tokens ++ []) :=
    separated_tokens_append j (by simp [NoNumberFirst]) trivial
  simpa using hend

end StreamConformance.Json
