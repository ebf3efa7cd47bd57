import LearnerPersona.Yaml.Token.Stream

/-!
# Stages of a scanner

A scanner goes through a flow collection on one line without ever opening a block, and the
candidates for keys that it remembers on the way are never required.  So it never fails over
them, and each bracket or comma is one step from one stage to the next.
-/

namespace LearnerPersona.Yaml

namespace Scanner

/-! ## Candidates -/

/-- The candidate, if it is still within reach. -/
def recent (place : Place) (candidate? : Option Candidate) : Option Candidate :=
  candidate?.filter fun candidate => !candidate.isPast place

/-- Without the candidates that are past. -/
def forget (scanner : Scanner) : Scanner :=
  { scanner with
    candidate? := recent scanner.place scanner.candidate?
    outer := scanner.outer.map (recent scanner.place) }

/-- The candidate, unless it is past; none if it must not be. -/
def checked (place : Place) : Option Candidate → Option (Option Candidate)
  | some candidate =>
      if candidate.isPast place then dropped (some candidate) else some (some candidate)
  | none => some none

private theorem expire_eq (scanner : Scanner) : scanner.expire = (do
    let candidate? ← checked scanner.place scanner.candidate?
    let outer ← scanner.outer.mapM (checked scanner.place)
    return { scanner with candidate?, outer }) := rfl

theorem candidate?_forget {scanner : Scanner} {candidate : Candidate}
    (h : scanner.candidate? = some candidate) (hpast : candidate.isPast scanner.place = false) :
    scanner.forget.candidate? = some candidate := by
  simp [forget, recent, Option.filter, h, hpast]

def IsOptional (candidate? : Option Candidate) : Prop :=
  ∀ candidate ∈ candidate?, candidate.required = false

theorem isOptional_none : IsOptional none := by simp [IsOptional]

private theorem dropped_of_isOptional {candidate? : Option Candidate} (h : IsOptional candidate?) :
    dropped candidate? = some none := by
  cases candidate? with
  | none => rfl
  | some candidate => simp [dropped, h candidate rfl]

private theorem checked_of_isOptional (place : Place) {candidate? : Option Candidate}
    (h : IsOptional candidate?) : checked place candidate? = some (recent place candidate?) := by
  cases candidate? with
  | none => rfl
  | some candidate =>
      cases hpast : candidate.isPast place with
      | false => simp [checked, recent, Option.filter, hpast]
      | true => simp [checked, recent, Option.filter, hpast, dropped_of_isOptional h]

private theorem isOptional_recent (place : Place) {candidate? : Option Candidate}
    (h : IsOptional candidate?) : IsOptional (recent place candidate?) :=
  fun candidate hcandidate => h candidate (Option.mem_filter_iff.mp hcandidate).1

/-! ## Stages -/

/-- Where a scanner stands between two tokens of a text that is one flow collection. -/
structure Stage where
  /-- The tokens read so far. -/
  tokens : List Token
  rest : List Char
  /-- The number of open flow collections. -/
  depth : Nat
  /-- A key is known to be allowed here. -/
  keyAllowed : Bool

structure IsAt (scanner : Scanner) (stage : Stage) : Prop where
  rest : scanner.cursor.rest = stage.rest
  tokens : scanner.tokens = stage.tokens.reverse
  count : scanner.count = stage.tokens.length
  indents : scanner.indents = []
  depth : scanner.outer.length = stage.depth
  keyAllowed : stage.keyAllowed = true → scanner.keyAllowed = true
  candidate : IsOptional scanner.candidate?
  outer : ∀ candidate? ∈ scanner.outer, IsOptional candidate?
  isDone : scanner.isDone = false

variable {scanner : Scanner} {stage : Stage}

private theorem mapM_eq_some_map {α β : Type} {items : List α} {read : α → Option β} {value : α → β}
    (h : ∀ item ∈ items, read item = some (value item)) :
    items.mapM read = some (items.map value) := by
  induction items with
  | nil => rfl
  | cons item items ih =>
      rw [List.forall_mem_cons] at h
      simp [List.mapM_cons, h.1, ih h.2]

/-- A key begins here, if one may. -/
def saved (scanner : Scanner) : Scanner :=
  if scanner.keyAllowed then
    { scanner with candidate? := some ⟨scanner.count, scanner.place, false⟩ }
  else scanner

@[simp] theorem saved_cursor (scanner : Scanner) : scanner.saved.cursor = scanner.cursor := by
  unfold saved
  split <;> rfl

namespace IsAt

theorem expire (h : scanner.IsAt stage) : scanner.expire = some scanner.forget := by
  have houter := mapM_eq_some_map fun candidate? hcandidate =>
    checked_of_isOptional scanner.place (h.outer candidate? hcandidate)
  simp only [expire_eq, checked_of_isOptional _ h.candidate, houter]
  rfl

theorem forget (h : scanner.IsAt stage) : scanner.forget.IsAt stage where
  rest := h.rest
  tokens := h.tokens
  count := h.count
  indents := h.indents
  depth := by simp [Scanner.forget, h.depth]
  keyAllowed := h.keyAllowed
  candidate := isOptional_recent _ h.candidate
  outer := by
    intro candidate? hcandidate
    obtain ⟨before?, hbefore, rfl⟩ := List.mem_map.mp hcandidate
    exact isOptional_recent _ (h.outer before? hbefore)
  isDone := h.isDone

theorem dedentTo (h : scanner.IsAt stage) (column? : Option Nat) :
    scanner.dedentTo column? = scanner := by
  have hindents := h.indents
  cases scanner
  cases hindents
  simp [Scanner.dedentTo]

theorem dropCandidate (h : scanner.IsAt stage) :
    scanner.dropCandidate = some { scanner with candidate? := none } := by
  simp [Scanner.dropCandidate, dropped_of_isOptional h.candidate]

theorem saveCandidate (h : scanner.IsAt stage) : scanner.saveCandidate = some scanner.saved := by
  unfold Scanner.saveCandidate Scanner.saved
  split
  next => simp [h.dropCandidate, h.indents, place]
  next => rfl

private theorem withCandidate (h : scanner.IsAt stage) {candidate? : Option Candidate}
    (hcandidate : IsOptional candidate?) : { scanner with candidate? }.IsAt stage :=
  { h with candidate := hcandidate }

theorem saved (h : scanner.IsAt stage) : scanner.saved.IsAt stage := by
  unfold Scanner.saved
  split
  next => exact h.withCandidate (by simp [IsOptional])
  next => exact h

variable {tokens : List Token} {token : Token} {char : Char} {rest : List Char} {depth : Nat}
  {keyAllowed : Bool}

theorem push {cursor : Cursor} {before : List Char}
    (h : scanner.IsAt ⟨tokens, before, depth, keyAllowed⟩) (htoken : token ≠ .streamEnd)
    (hrest : cursor.rest = rest) (keyAllowed' : Bool) :
    ({ scanner with cursor, keyAllowed := keyAllowed' }.push token).IsAt
      ⟨tokens ++ [token], rest, depth, keyAllowed'⟩ where
  rest := hrest
  tokens := by simp [Scanner.push, h.tokens]
  count := by simp [Scanner.push, h.count]
  indents := h.indents
  depth := h.depth
  keyAllowed := id
  candidate := h.candidate
  outer := h.outer
  isDone := by simp [Scanner.push, Scanner.isDone, htoken]

theorem take (h : scanner.IsAt ⟨tokens, char :: rest, depth, keyAllowed⟩)
    (htoken : token ≠ .streamEnd) (keyAllowed' : Bool) :
    (scanner.take 1 token keyAllowed').IsAt ⟨tokens ++ [token], rest, depth, keyAllowed'⟩ :=
  h.push htoken (by simp [Cursor.skip, h.rest]) keyAllowed'

end IsAt

/-! ## From stage to stage -/

def flowMarks : List Char := ['[', ']', '\x7b', '\x7d', ',', ':', '"']

private theorem skipGap_of_mem_flowMarks {char : Char} (hchar : char ∈ flowMarks)
    (flow keyAllowed : Bool) (rest : List Char) (place : Place) :
    skipGap flow false keyAllowed (char :: rest) place = (⟨char :: rest, place⟩, keyAllowed) := by
  simp only [flowMarks, List.mem_cons, List.not_mem_nil, or_false] at hchar
  rcases hchar with rfl | rfl | rfl | rfl | rfl | rfl | rfl <;>
    simp [skipGap, isBreak, byteOrderMark]

/-- A run goes from the one stage to the other in so many steps at most. -/
def Leads (stage : Stage) (steps : Nat) (stage' : Stage) : Prop :=
  ∀ scanner : Scanner, scanner.IsAt stage → ∃ (scanner' : Scanner) (count : Nat),
    count ≤ steps ∧ scanner'.IsAt stage' ∧ ∀ fuel, scanner.run (fuel + count) = scanner'.run fuel

namespace Leads

variable {middle stage' : Stage} {steps steps' : Nat}

theorem trans (h : Leads stage steps middle) (h' : Leads middle steps' stage') :
    Leads stage (steps + steps') stage' := by
  intro scanner hscanner
  obtain ⟨_, count, hcount, hmiddle, hrun⟩ := h scanner hscanner
  obtain ⟨last, count', hcount', hlast, hrun'⟩ := h' _ hmiddle
  refine ⟨last, count' + count, by omega, hlast, fun fuel => ?_⟩
  rw [← Nat.add_assoc, hrun, hrun']

theorem mono (h : Leads stage steps stage') (hsteps : steps ≤ steps') :
    Leads stage steps' stage' := by
  intro scanner hscanner
  obtain ⟨last, count, hcount, hlast⟩ := h scanner hscanner
  exact ⟨last, count, Nat.le_trans hcount hsteps, hlast⟩

end Leads

theorem run_of_step {scanner' : Scanner} (h : scanner.IsAt stage)
    (hstep : scanner.step = some scanner') (fuel : Nat) :
    scanner.run (fuel + 1) = scanner'.run fuel := by
  simp [run, h.isDone, hstep]

/-! ## Steps -/

section

variable {stage' : Stage} {tokens : List Token} {token : Token} {char : Char} {rest : List Char}
  {depth : Nat} {keyAllowed : Bool}

theorem IsAt.step (h : scanner.IsAt ⟨tokens, char :: rest, depth, keyAllowed⟩)
    (hchar : char ∈ flowMarks) :
    scanner.step = scanner.forget.readToken.bind Scanner.expire := by
  have hrest : scanner.cursor.rest = char :: rest := h.rest
  have hnext : scanner.toNextToken = scanner := by
    rw [toNextToken, hrest, skipGap_of_mem_flowMarks hchar, ← hrest]
    rfl
  rw [Scanner.step, hnext, h.expire]
  simp [h.forget.dedentTo, bind]

theorem IsAt.step_of_readToken (h : scanner.IsAt ⟨tokens, char :: rest, depth, keyAllowed⟩)
    (hchar : char ∈ flowMarks) {scanner' : Scanner}
    (hread : scanner.forget.readToken = some scanner') (h' : scanner'.IsAt stage') :
    scanner.step = some scanner'.forget := by
  rw [h.step hchar, hread]
  exact h'.expire

/-- One token that is read at its mark. -/
theorem Leads.of_read (hchar : char ∈ flowMarks) {read : Scanner → Option Scanner}
    (hmark : ∀ {scanner : Scanner}, scanner.cursor.rest = char :: rest →
      scanner.readToken = read scanner)
    (hread : ∀ {scanner : Scanner}, scanner.IsAt ⟨tokens, char :: rest, depth, keyAllowed⟩ →
      ∃ scanner', read scanner = some scanner' ∧ scanner'.IsAt stage') :
    Leads ⟨tokens, char :: rest, depth, keyAllowed⟩ 1 stage' := by
  intro scanner h
  obtain ⟨scanner', hscanner', h'⟩ := hread h.forget
  have hstep := h.step_of_readToken hchar ((hmark h.forget.rest).trans hscanner') h'
  exact ⟨scanner'.forget, 1, Nat.le_refl 1, h'.forget, run_of_step h hstep⟩

theorem IsAt.readFlowStart (h : scanner.IsAt ⟨tokens, char :: rest, depth, keyAllowed⟩)
    (htoken : token ≠ .streamEnd) : ∃ scanner', scanner.readFlowStart token = some scanner' ∧
      scanner'.IsAt ⟨tokens ++ [token], rest, depth + 1, true⟩ := by
  have hinner : { scanner.saved with
      candidate? := none, outer := scanner.saved.candidate? :: scanner.saved.outer }.IsAt
      ⟨tokens, char :: rest, depth + 1, keyAllowed⟩ :=
    { h.saved with
      depth := by simp [h.saved.depth]
      candidate := isOptional_none
      outer := List.forall_mem_cons.mpr ⟨h.saved.candidate, h.saved.outer⟩ }
  refine ⟨_, ?_, hinner.take htoken true⟩
  simp [Scanner.readFlowStart, h.saveCandidate]

theorem IsAt.readFlowEnd (h : scanner.IsAt ⟨tokens, char :: rest, depth + 1, keyAllowed⟩)
    (htoken : token ≠ .streamEnd) : ∃ scanner', scanner.readFlowEnd token = some scanner' ∧
      scanner'.IsAt ⟨tokens ++ [token], rest, depth, false⟩ := by
  obtain ⟨candidate?, outer, houter⟩ := List.exists_cons_of_length_eq_add_one h.depth
  have hoptional := h.outer
  rw [houter, List.forall_mem_cons] at hoptional
  have houtside : { scanner with candidate?, outer }.IsAt
      ⟨tokens, char :: rest, depth, keyAllowed⟩ :=
    { h with
      depth := by simpa [houter] using h.depth
      candidate := hoptional.1
      outer := hoptional.2 }
  refine ⟨_, ?_, houtside.take htoken false⟩
  simp [Scanner.readFlowEnd, h.dropCandidate, houter]

theorem IsAt.readFlowEntry (h : scanner.IsAt ⟨tokens, char :: rest, depth, keyAllowed⟩) :
    ∃ scanner', scanner.readFlowEntry = some scanner' ∧
      scanner'.IsAt ⟨tokens ++ [.flowEntry], rest, depth, true⟩ := by
  have hdropped : { scanner with candidate? := none }.IsAt
      ⟨tokens, char :: rest, depth, keyAllowed⟩ := h.withCandidate isOptional_none
  refine ⟨_, ?_, hdropped.take (by decide) true⟩
  simp [Scanner.readFlowEntry, h.dropCandidate]

theorem Leads.openSequence : Leads ⟨tokens, '[' :: rest, depth, keyAllowed⟩ 1
    ⟨tokens ++ [.flowSequenceStart], rest, depth + 1, true⟩ :=
  of_read (by decide) (fun h => by simp [readToken, h, atDocumentMark])
    fun h => h.readFlowStart (by decide)

theorem Leads.openMapping : Leads ⟨tokens, '\x7b' :: rest, depth, keyAllowed⟩ 1
    ⟨tokens ++ [.flowMappingStart], rest, depth + 1, true⟩ :=
  of_read (by decide) (fun h => by simp [readToken, h, atDocumentMark])
    fun h => h.readFlowStart (by decide)

theorem Leads.closeSequence : Leads ⟨tokens, ']' :: rest, depth + 1, keyAllowed⟩ 1
    ⟨tokens ++ [.flowSequenceEnd], rest, depth, false⟩ :=
  of_read (by decide) (fun h => by simp [readToken, h, atDocumentMark])
    fun h => h.readFlowEnd (by decide)

theorem Leads.closeMapping : Leads ⟨tokens, '\x7d' :: rest, depth + 1, keyAllowed⟩ 1
    ⟨tokens ++ [.flowMappingEnd], rest, depth, false⟩ :=
  of_read (by decide) (fun h => by simp [readToken, h, atDocumentMark])
    fun h => h.readFlowEnd (by decide)

theorem Leads.entry : Leads ⟨tokens, ',' :: rest, depth, keyAllowed⟩ 1
    ⟨tokens ++ [.flowEntry], rest, depth, true⟩ :=
  of_read (by decide) (fun h => by simp [readToken, h, atDocumentMark]) fun h => h.readFlowEntry

end

end Scanner

end LearnerPersona.Yaml
