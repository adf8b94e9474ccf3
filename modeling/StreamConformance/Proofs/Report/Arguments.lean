import StreamConformance.CommandLine

/-!
# Arguments of the command line

Options are usually written one after the other, a flag by its name, any other option by its name
and its value. Tools that can be relied on read them so, and the reader at hand is of this kind.

## Main definitions

* `Options.arguments` — the arguments by which options are usually written.
* `Options.IsPlain` — the options that can be written so.
* `CommandLine.Toolkit.Reads` — such arguments are read as the options.

## Main results

* `Options.parse_arguments`, `CommandLine.standard_reads` — the reader at hand reads them so.
-/

namespace StreamConformance

/-- The word for a format. -/
def Format.word : Format → String
  | text => "text"
  | json => "json"

@[simp] theorem Format.ofWord?_word (f : Format) : ofWord? f.word = some f := by
  cases f <;> rfl

@[simp] theorem Specimen.ofWord?_word (k : Specimen) : ofWord? k.word = some k := by
  cases k <;> rfl

namespace Options

/-! ### Writing options -/

/-- A text that begins with another character than a dash. -/
def IsPlainText (text : String) : Prop := ∃ c cs, text = String.ofList (c :: cs) ∧ c ≠ '-'

/-- The name of the entry, if one is given, cannot be taken for an option, and the bound of waits is
left to the settings. -/
structure IsPlain (o : Options) : Prop where
  case : ∀ name ∈ o.case?, IsPlainText name
  timeout : o.timeout? = none

/-- The name and the value of an option that is given. -/
def written (name : String) : Option String → List String
  | some value => [name, value]
  | none => []

/-- The name of a flag that is given. -/
def writtenFlag (name : String) (isGiven : Bool) : List String := if isGiven then [name] else []

/-- The arguments by which options are usually written. -/
def arguments (o : Options) : List String :=
  written "--case" o.case? ++ (writtenFlag "--all" o.all ++ (writtenFlag "--list" o.list ++
    (writtenFlag "--show-rules" o.showRules ++
      (written "--subject" (o.subject?.map Specimen.word) ++
        written "--format" (o.format?.map Format.word)))))

/-! ### Values -/

theorem IsPlainText.isValue {text : String} (h : IsPlainText text) : isValue text = true := by
  obtain ⟨c, cs, rfl, hc⟩ := h
  unfold Options.isValue
  rw [String.toList_ofList]
  split
  next h => exact absurd (List.cons.inj h).1 hc
  next => rfl

theorem IsPlainText.append {text : String} (h : IsPlainText text) (rest : String) :
    IsPlainText (text ++ rest) := by
  obtain ⟨c, cs, rfl, hc⟩ := h
  exact ⟨c, cs ++ rest.toList, by simp [← String.toList_inj], hc⟩

theorem isPlainText_name {α σ η : Type} [Element α] {rule : Rule α σ η}
    (hr : rule ∈ Catalog.rules) : IsPlainText rule.name := by
  revert hr rule
  simp only [Catalog.rules, Catalog.required, Catalog.notVerified, List.forall_mem_cons,
    List.not_mem_nil, false_imp_iff, implies_true, and_true]
  and_intros
  all_goals
    first
    | with_reducible refine IsPlainText.append ?_ _
      exact ⟨_, _, rfl, by decide⟩
    | exact ⟨_, _, rfl, by decide⟩

theorem isPlainText_word (k : Specimen) : IsPlainText k.word := by
  cases k <;> exact ⟨_, _, rfl, by decide⟩

theorem isPlainText_formatWord (f : Format) : IsPlainText f.word := by
  cases f <;> exact ⟨_, _, rfl, by decide⟩

/-! ### Reading options -/

section

variable {o : Options} (o' : Options) {name : String}

theorem readAll_written (hname : takesValue name = true) {value? : Option String}
    (hvalue : ∀ value ∈ value?, IsPlainText value ∧ o.setOption name value = .ok o')
    (hnone : value? = none → o' = o) (rest : List String) :
    readAll o (written name value? ++ rest) = readAll o' rest := by
  cases value? with
  | none => rw [hnone rfl, written, List.nil_append]
  | some value =>
    obtain ⟨hplain, hset⟩ := hvalue value rfl
    have hdashes : name ≠ "--" := by
      rintro rfl
      simp [takesValue] at hname
    have hgo : readAll o (name :: value :: rest) = readAll o' rest := by
      rw [readAll]
      · simp only [hname, if_true, hplain.isValue, hset]
      · simp [hdashes]
      · simp [hdashes]
    exact hgo

theorem readAll_writtenFlag {isGiven : Bool}
    (hname : name = "--all" ∨ name = "--list" ∨ name = "--show-rules")
    (hset : isGiven = true → o.setFlag name = .ok o') (hnone : isGiven = false → o' = o)
    (rest : List String) : readAll o (writtenFlag name isGiven ++ rest) = readAll o' rest := by
  cases isGiven with
  | false => rw [hnone rfl, writtenFlag, if_neg Bool.false_ne_true, List.nil_append]
  | true =>
    have halone : o.readAlone name = o.setFlag name := by
      rcases hname with rfl | rfl | rfl <;> rfl
    have hdashes : name ≠ "--" := by rcases hname with rfl | rfl | rfl <;> decide
    have hvalue : takesValue name = false := by rcases hname with rfl | rfl | rfl <;> rfl
    have hgo : readAll o (name :: rest) = readAll o' rest := by
      rw [readAll.eq_def]
      split
      · simp_all
      · simp_all
      · simp_all
      next argument rest' _ _ h =>
        obtain ⟨rfl, rfl⟩ := List.cons.inj h
        simp only [hvalue, halone, hset rfl, Bool.false_eq_true, if_false]
    exact hgo

end

/-- Options are read from the arguments by which they are written. -/
theorem parse_arguments {o : Options} (ho : o.IsPlain) : parse o.arguments = .ok o := by
  obtain ⟨case?, all, list, showRules, subject?, format?, timeout?⟩ := o
  obtain ⟨hcase, htimeout⟩ := ho
  obtain rfl : timeout? = none := htimeout
  let o₁ : Options := { unset with case? }
  let o₂ : Options := { o₁ with all }
  let o₃ : Options := { o₂ with list }
  let o₄ : Options := { o₃ with showRules }
  let o₅ : Options := { o₄ with subject? }
  have hcases (name : String) (h : name ∈ case?) : unset.setOption "--case" name = .ok o₁ := by
    obtain rfl : case? = some name := h
    rfl
  have hsubjects (word : String) (h : word ∈ subject?.map Specimen.word) :
      IsPlainText word ∧ o₄.setOption "--subject" word = .ok o₅ := by
    obtain ⟨k, rfl, rfl⟩ := Option.map_eq_some_iff.mp h
    exact ⟨isPlainText_word k, by simp [setOption, setValue, o₁, o₂, o₃, o₄, o₅, unset]⟩
  have hformats (word : String) (h : word ∈ format?.map Format.word) :
      IsPlainText word ∧ o₅.setOption "--format" word = .ok { o₅ with format? } := by
    obtain ⟨f, rfl, rfl⟩ := Option.map_eq_some_iff.mp h
    exact ⟨isPlainText_formatWord f, by simp [setOption, setValue, o₁, o₂, o₃, o₄, o₅, unset]⟩
  rw [parse, arguments, ← List.append_nil (written "--format" _),
    readAll_written o₁ rfl (fun name h => ⟨hcase name h, hcases name h⟩),
    readAll_writtenFlag o₂ (by simp), readAll_writtenFlag o₃ (by simp),
    readAll_writtenFlag o₄ (by simp), readAll_written o₅ rfl hsubjects,
    readAll_written { o₅ with format? } rfl hformats]
  · rfl
  all_goals simp +contextual [setFlag, o₁, o₂, o₃, o₄, o₅, unset]

end Options

namespace CommandLine

/-- Arguments are read as the options that are written by them. -/
structure Toolkit.Reads (tools : Toolkit) : Prop where
  arguments : ∀ o : Options, o.IsPlain → tools.read o.arguments = .ok o

theorem standard_reads : standard.Reads where
  arguments o ho := by
    rw [show standard.read o.arguments = (Options.parse o.arguments).mapError refuse from rfl,
      Options.parse_arguments ho]
    rfl

end CommandLine

end StreamConformance
