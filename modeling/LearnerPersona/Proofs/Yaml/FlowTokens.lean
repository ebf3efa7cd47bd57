import LearnerPersona.Proofs.Yaml.Quoted
import LearnerPersona.Proofs.Yaml.Stage

/-!
# Tokens of compact JSON

The compact text of a value without plain scalars is one YAML flow collection.  Every text in
it is one step of a scanner, and the colon behind a text turns the text into a key, since both
its quotes are near enough.
-/

namespace LearnerPersona

open LearnerPersona.Yaml

/-! ## Values without plain scalars -/

namespace Json

def TextShared (text : String) : Prop := ∀ char ∈ text.toList, Yaml.IsShared char

instance : DecidablePred TextShared := fun text => List.decidableBAll Yaml.IsShared text.toList

/-- However the key is written, its quotes are within reach of each other. -/
def KeyShared (key : String) : Prop :=
  TextShared key ∧ 6 * key.toList.length + 2 ≤ Candidate.reach

instance : DecidablePred KeyShared := fun _ => inferInstanceAs (Decidable (_ ∧ _))

mutual

def IsShared : Json → Prop
  | .string text => TextShared text
  | .array items => ItemsShared items
  | .object members => MembersShared members
  | .null | .boolean _ | .number _ => False

def ItemsShared : List Json → Prop
  | [] => True
  | item :: items => item.IsShared ∧ ItemsShared items

def MembersShared : List (String × Json) → Prop
  | [] => True
  | (key, value) :: members => KeyShared key ∧ value.IsShared ∧ MembersShared members

end

mutual

/-- What a scanner finds in the compact text of a value without plain scalars. -/
def tokens : Json → List Token
  | .null | .boolean _ | .number _ => []
  | .string text => [.scalar .doubleQuoted text]
  | .array items => .flowSequenceStart :: itemTokens items ++ [.flowSequenceEnd]
  | .object members => .flowMappingStart :: memberTokens members ++ [.flowMappingEnd]

def itemTokens : List Json → List Token
  | [] => []
  | [item] => item.tokens
  | item :: next :: items => item.tokens ++ .flowEntry :: itemTokens (next :: items)

def memberTokens : List (String × Json) → List Token
  | [] => []
  | [(key, value)] => .key :: .scalar .doubleQuoted key :: .value :: value.tokens
  | (key, value) :: next :: members =>
      .key :: .scalar .doubleQuoted key :: .value :: value.tokens ++
        .flowEntry :: memberTokens (next :: members)

end

end Json

namespace Yaml

namespace Scanner

variable {scanner : Scanner} {tokens : List Token} {rest : List Char} {depth : Nat}
  {keyAllowed : Bool}

/-! ## Texts -/

private theorem stringChars_append (text : String) (rest : List Char) :
    Json.stringChars text ++ rest =
      '"' :: (text.toList.flatMap Json.escaped ++ '"' :: rest) := by
  simp [Json.stringChars]

theorem IsAt.readQuoted {text : String}
    (h : scanner.IsAt ⟨tokens, Json.stringChars text ++ rest, depth, keyAllowed⟩)
    (htext : Json.TextShared text) :
    ∃ cursor : Cursor, cursor.rest = rest ∧
      scanner.place.Within (6 * text.toList.length + 2) cursor.place ∧
      scanner.readToken = some ({ scanner.saved with cursor, keyAllowed := false }.push
        (.scalar .doubleQuoted text)) := by
  have hrest : scanner.cursor.rest =
      '"' :: (text.toList.flatMap Json.escaped ++ '"' :: rest) :=
    h.rest.trans (stringChars_append text rest)
  have hquote : scanner.cursor.skip 1 =
      ⟨text.toList.flatMap Json.escaped ++ '"' :: rest, scanner.place.next⟩ := by
    rw [Cursor.skip, hrest]
    rfl
  have hopen := scanner.place.within_next
  obtain ⟨behind, hbehind, hcloses⟩ := Closes.flatMap_escaped rest htext hopen.column
  refine ⟨⟨rest, behind⟩, rfl, ?_, ?_⟩
  · convert hopen.trans hbehind using 1
    omega
  · simp [readToken, hrest, atDocumentMark, Scanner.readQuoted, h.saveCandidate, hquote,
      hcloses {} rfl, accept, Gap.text]

theorem Leads.text {text : String} (htext : Json.TextShared text) :
    Leads ⟨tokens, Json.stringChars text ++ rest, depth, keyAllowed⟩ 1
      ⟨tokens ++ [.scalar .doubleQuoted text], rest, depth, false⟩ := by
  rw [stringChars_append]
  refine of_read (by decide) (fun _ => rfl) fun h => ?_
  rw [← stringChars_append] at h
  obtain ⟨cursor, hrest, -, hread⟩ := h.readQuoted htext
  rw [stringChars_append] at h
  exact ⟨_, hread, h.saved.push Token.noConfusion hrest false⟩

private theorem isPast_eq_false {place behind : Place} {reach number : Nat}
    (h : place.Within reach behind) (hreach : reach ≤ Candidate.reach) :
    (⟨number, place, false⟩ : Candidate).isPast behind = false := by
  have hbytes := h.bytes
  simp only [Candidate.isPast, h.line, Bool.or_eq_false_iff, decide_eq_false_iff_not]
  omega

theorem IsAt.readValue {text : Token} {candidate : Candidate}
    (h : scanner.IsAt ⟨tokens ++ [text], ':' :: rest, depth + 1, false⟩)
    (hcandidate : scanner.candidate? = some candidate)
    (hnumber : candidate.number = tokens.length) :
    ∃ scanner', scanner.readToken = some scanner' ∧
      scanner'.IsAt ⟨tokens ++ [.key, text, .value], rest, depth + 1, false⟩ := by
  have hrest : scanner.cursor.rest = ':' :: rest := h.rest
  obtain ⟨candidate?, outer, houter⟩ := List.exists_cons_of_length_eq_add_one h.depth
  have htext : text ≠ .streamEnd := by
    simpa [Scanner.isDone, h.tokens] using h.isDone
  have hkey : ({ scanner with candidate? := none }.insert candidate.number .key).IsAt
      ⟨tokens ++ [Token.key, text], ':' :: rest, depth + 1, false⟩ :=
    { h with
      tokens := by simp [Scanner.insert, h.tokens, h.count, hnumber]
      count := by simp [Scanner.insert, h.count]
      candidate := isOptional_none
      isDone := by simp [Scanner.insert, Scanner.isDone, h.tokens, h.count, hnumber, htext] }
  have hvalue : (({ scanner with candidate? := none }.insert candidate.number .key).take 1
      .value false).IsAt ⟨tokens ++ [Token.key, text, Token.value], rest, depth + 1, false⟩ := by
    simpa using hkey.take Token.noConfusion false
  refine ⟨_, ?_, hvalue⟩
  simp [readToken, hrest, atDocumentMark, Scanner.readValue, hcandidate, indentTo,
    Scanner.insert, inFlow, houter]

theorem Leads.key {text : String} (htext : Json.TextShared text)
    (hreach : 6 * text.toList.length + 2 ≤ Candidate.reach) :
    Leads ⟨tokens, Json.stringChars text ++ ':' :: rest, depth + 1, true⟩ 2
      ⟨tokens ++ [.key, .scalar .doubleQuoted text, .value], rest, depth + 1, false⟩ := by
  intro scanner h
  obtain ⟨cursor, hrest, hwithin, hread⟩ := h.forget.readQuoted htext
  have hscalar := h.forget.saved.push (Token.noConfusion : .scalar .doubleQuoted text ≠ _) hrest
    false
  rw [stringChars_append] at h
  have hfirst := h.step_of_readToken (by decide) hread hscalar
  -- The text may be a key, and the colon behind it is near enough.
  generalize hmiddle : ({ scanner.forget.saved with cursor, keyAllowed := false }.push
    (.scalar .doubleQuoted text)) = middle at hscalar hfirst
  let candidate : Candidate := ⟨scanner.forget.count, scanner.forget.place, false⟩
  have hpast : candidate.isPast middle.place = false := by
    rw [← hmiddle]
    exact isPast_eq_false hwithin hreach
  have hcandidate : middle.candidate? = some candidate := by
    rw [← hmiddle, Scanner.saved, if_pos (h.forget.keyAllowed rfl)]
    rfl
  have hcandidate' := candidate?_forget hcandidate hpast
  obtain ⟨last, hvalue, hlast⟩ := hscalar.forget.forget.readValue
    (candidate?_forget hcandidate' hpast) h.forget.count
  have hsecond := hscalar.forget.step_of_readToken (by decide) hvalue hlast
  refine ⟨last.forget, 2, Nat.le_refl 2, hlast.forget, fun fuel => ?_⟩
  rw [run_of_step h hfirst, run_of_step hscalar.forget hsecond]

/-! ## Values -/

private theorem Leads.anyKey (stage : Stage) : Leads stage 0 { stage with keyAllowed := false } :=
  fun _ h => ⟨_, 0, Nat.le_refl 0, { h with keyAllowed := nofun }, fun _ => rfl⟩

mutual

theorem leads_chars (tokens : List Token) (rest : List Char) (depth : Nat) (keyAllowed : Bool) :
    (value : Json) → value.IsShared →
      Leads ⟨tokens, value.chars ++ rest, depth, keyAllowed⟩ value.chars.length
        ⟨tokens ++ value.tokens, rest, depth, false⟩
  | .string text, h => by
      rw [Json.IsShared] at h
      exact (Leads.text h).mono (by simp [Json.chars, Json.stringChars])
  | .array items, h => by
      rw [Json.IsShared] at h
      have hitems := leads_items (tokens ++ [.flowSequenceStart]) (']' :: rest) (depth + 1) true
        items h
      have hall : Leads ⟨tokens, _, depth, keyAllowed⟩ _ _ :=
        Leads.openSequence.trans (hitems.trans Leads.closeSequence)
      simp only [Json.chars, Json.tokens, List.cons_append, List.append_assoc,
        List.nil_append] at hall ⊢
      exact hall.mono (by simp; omega)
  | .object members, h => by
      rw [Json.IsShared] at h
      have hmembers := leads_members (tokens ++ [.flowMappingStart]) ('\x7d' :: rest) depth
        members h
      have hall : Leads ⟨tokens, _, depth, keyAllowed⟩ _ _ :=
        Leads.openMapping.trans (hmembers.trans Leads.closeMapping)
      simp only [Json.chars, Json.tokens, List.cons_append, List.append_assoc,
        List.nil_append] at hall ⊢
      exact hall.mono (by simp; omega)

theorem leads_items (tokens : List Token) (rest : List Char) (depth : Nat) (keyAllowed : Bool) :
    (items : List Json) → Json.ItemsShared items →
      Leads ⟨tokens, Json.itemsChars items ++ rest, depth, keyAllowed⟩
        (Json.itemsChars items).length ⟨tokens ++ Json.itemTokens items, rest, depth, false⟩
  | [], _ => by
      rw [Json.itemTokens, List.append_nil]
      exact Leads.anyKey _
  | [item], h => leads_chars tokens rest depth keyAllowed item h.1
  | item :: next :: items, h => by
      have hitem := leads_chars tokens (',' :: (Json.itemsChars (next :: items) ++ rest)) depth
        keyAllowed item h.1
      have hitems := leads_items (tokens ++ item.tokens ++ [.flowEntry]) rest depth true
        (next :: items) h.2
      have hall := hitem.trans (Leads.entry.trans hitems)
      simp only [Json.itemsChars, Json.itemTokens, List.cons_append, List.append_assoc,
        List.nil_append] at hall ⊢
      exact hall.mono (by simp; omega)

theorem leads_members (tokens : List Token) (rest : List Char) (depth : Nat) :
    (members : List (String × Json)) → Json.MembersShared members →
      Leads ⟨tokens, Json.membersChars members ++ rest, depth + 1, true⟩
        (Json.membersChars members).length
        ⟨tokens ++ Json.memberTokens members, rest, depth + 1, false⟩
  | [], _ => by
      rw [Json.memberTokens, List.append_nil]
      exact Leads.anyKey _
  | [(key, value)], h => by
      have hvalue := leads_chars (tokens ++ [.key, .scalar .doubleQuoted key, .value]) rest
        (depth + 1) false value h.2.1
      have hall := (Leads.key h.1.1 h.1.2).trans hvalue
      simp only [Json.membersChars, Json.memberTokens, List.cons_append, List.append_assoc,
        List.nil_append] at hall ⊢
      exact hall.mono (by simp [Json.stringChars]; omega)
  | (key, value) :: next :: members, h => by
      have hvalue := leads_chars (tokens ++ [.key, .scalar .doubleQuoted key, .value])
        (',' :: (Json.membersChars (next :: members) ++ rest)) (depth + 1) false value h.2.1
      have hmembers := leads_members
        (tokens ++ [.key, .scalar .doubleQuoted key, .value] ++ value.tokens ++ [.flowEntry])
        rest depth (next :: members) h.2.2
      have hall := (Leads.key h.1.1 h.1.2).trans (hvalue.trans (Leads.entry.trans hmembers))
      simp only [Json.membersChars, Json.memberTokens, List.cons_append, List.append_assoc,
        List.nil_append] at hall ⊢
      exact hall.mono (by simp [Json.stringChars]; omega)

end

/-! ## Whole texts -/

private theorem IsAt.readToken_end (h : scanner.IsAt ⟨tokens, [], 0, keyAllowed⟩) :
    ∃ scanner', scanner.readToken = some scanner' ∧
      scanner'.tokens = .streamEnd :: tokens.reverse ∧ scanner'.candidate? = none ∧
      scanner'.outer = [] := by
  have houter : scanner.outer = [] := List.eq_nil_of_length_eq_zero h.depth
  let place := if scanner.place.column = 0 then scanner.place else scanner.place.newLine
  refine ⟨{ scanner with candidate? := none, cursor := ⟨[], place⟩, keyAllowed := false }.push
    .streamEnd, ?_, congrArg (Token.streamEnd :: ·) h.tokens, rfl, houter⟩
  rw [Scanner.readToken, h.rest]
  simp only [readEnd, h.dedentTo, h.dropCandidate]
  rfl

private theorem IsAt.step_end (h : scanner.IsAt ⟨tokens, [], 0, keyAllowed⟩) :
    ∃ scanner', scanner.step = some scanner' ∧
      scanner'.tokens = .streamEnd :: tokens.reverse := by
  have hrest : scanner.cursor.rest = [] := h.rest
  have hnext : scanner.toNextToken = scanner := by
    rw [toNextToken, hrest, skipGap, ← hrest]
    rfl
  obtain ⟨last, hread, htokens, hcandidate, houter⟩ := h.forget.readToken_end
  refine ⟨last, ?_, htokens⟩
  have hlast : last.expire = some last := by
    cases last
    cases hcandidate
    cases houter
    rfl
  rw [Scanner.step, hnext, h.expire]
  simp [h.forget.dedentTo, hread, hlast]

private theorem IsAt.run_end (h : scanner.IsAt ⟨tokens, [], 0, keyAllowed⟩) (fuel : Nat) :
    scanner.run (fuel + 2) = tokens ++ [.streamEnd] := by
  obtain ⟨last, hstep, htokens⟩ := h.step_end
  have hdone : last.isDone = true := by simp [Scanner.isDone, htokens]
  rw [run_of_step h hstep, run, if_pos hdone]
  simp [first, htokens]

end Scanner

private theorem verbatim_stringChars {text : String} (h : Json.TextShared text) :
    ∀ char ∈ Json.stringChars text, IsVerbatim char := by
  have hquote : IsVerbatim '"' := by decide
  intro char hchar
  simp only [Json.stringChars, List.cons_append, List.mem_cons, List.mem_append, List.mem_flatMap,
    List.not_mem_nil, or_false] at hchar
  rcases hchar with rfl | ⟨written, hwritten, hchar⟩ | rfl
  · exact hquote
  · exact verbatim_escaped (h written hwritten) char hchar
  · exact hquote

private theorem verbatim_marks : ∀ char ∈ Scanner.flowMarks, IsVerbatim char := by
  simp only [Scanner.flowMarks, List.forall_mem_cons]
  exact ⟨by decide, by decide, by decide, by decide, by decide, by decide, by decide,
    List.forall_mem_nil _⟩

mutual

theorem verbatim_chars : (value : Json) → value.IsShared →
    ∀ char ∈ value.chars, IsVerbatim char
  | .string text, h => verbatim_stringChars h
  | .array items, h => by
      have hitems := verbatim_items items h
      have hopen := verbatim_marks '[' (by decide)
      have hclose := verbatim_marks ']' (by decide)
      simp only [Json.chars, List.cons_append, List.forall_mem_cons, List.forall_mem_append]
      exact ⟨hopen, hitems, hclose, nofun⟩
  | .object members, h => by
      have hmembers := verbatim_members members h
      have hopen := verbatim_marks '\x7b' (by decide)
      have hclose := verbatim_marks '\x7d' (by decide)
      simp only [Json.chars, List.cons_append, List.forall_mem_cons, List.forall_mem_append]
      exact ⟨hopen, hmembers, hclose, nofun⟩

private theorem verbatim_items : (items : List Json) → Json.ItemsShared items →
    ∀ char ∈ Json.itemsChars items, IsVerbatim char
  | [], _ => nofun
  | [item], h => verbatim_chars item h.1
  | item :: next :: items, h => by
      have hitem := verbatim_chars item h.1
      have hitems := verbatim_items (next :: items) h.2
      have hcomma := verbatim_marks ',' (by decide)
      simp only [Json.itemsChars, List.forall_mem_cons, List.forall_mem_append]
      exact ⟨hitem, hcomma, hitems⟩

private theorem verbatim_members : (members : List (String × Json)) → Json.MembersShared members →
    ∀ char ∈ Json.membersChars members, IsVerbatim char
  | [], _ => nofun
  | [(key, value)], h => by
      have hkey := verbatim_stringChars h.1.1
      have hvalue := verbatim_chars value h.2.1
      have hcolon := verbatim_marks ':' (by decide)
      simp only [Json.membersChars, List.forall_mem_cons, List.forall_mem_append]
      exact ⟨hkey, hcolon, hvalue⟩
  | (key, value) :: next :: members, h => by
      have hkey := verbatim_stringChars h.1.1
      have hvalue := verbatim_chars value h.2.1
      have hmembers := verbatim_members (next :: members) h.2.2
      have hcolon := verbatim_marks ':' (by decide)
      have hcomma := verbatim_marks ',' (by decide)
      simp only [Json.membersChars, List.forall_mem_cons, List.forall_mem_append]
      exact ⟨⟨hkey, hcolon, hvalue⟩, hcomma, hmembers⟩

end

theorem tokens_compact {value : Json} (h : value.IsShared) :
    tokens value.compact = value.tokens ++ [.streamEnd] := by
  have hchars : value.compact.toList = value.chars := by simp [Json.compact]
  have hverbatim := verbatim_chars value h
  have hprintable : value.chars.all isPrintable = true :=
    List.all_eq_true.mpr fun char hchar => (hverbatim char hchar).1
  let start : Scanner := { cursor := ⟨value.chars, {}⟩ }
  have hstart : start.IsAt ⟨[], value.chars ++ [], 0, true⟩ := by
    refine ⟨?_, rfl, rfl, rfl, rfl, fun _ => rfl, Scanner.isOptional_none, ?_, rfl⟩ <;>
      simp [start]
  obtain ⟨last, count, hcount, hlast, hrun⟩ := Scanner.leads_chars [] [] 0 true value h start hstart
  obtain ⟨fuel, hfuel⟩ := Nat.exists_eq_add_of_le hcount
  have hsteps : value.chars.length + 2 = fuel + 2 + count := by omega
  rw [tokens, hchars]
  simp only [hprintable, unifyBreaks_of_verbatim hverbatim, if_true]
  change start.run (value.chars.length + 2) = _
  rw [hsteps, hrun, hlast.run_end]
  rfl

end Yaml

end LearnerPersona
