import LearnerPersona.Proofs.Prompt.Influence

/-!
# The section on what the learner knows

The section says of each field that carries text what the text is, in a block of its own,
and the blocks stand one behind the other in a fixed order.  Only a learner of whom nothing
is known gets the generic paragraph, since no block begins like it.
-/

namespace LearnerPersona

open LearnerPersona.Text

namespace Knowledge

/-! ## Topics -/

inductive Topic where
  | subject | understanding | misconceptions | gaps | context
  deriving DecidableEq, Repr

namespace Topic

def all : List Topic := [.subject, .understanding, .misconceptions, .gaps, .context]

/-- The fields that the block tells, as far as the learner has them. -/
def fields (knowledge : Knowledge) : Topic → List String
  | .subject => [knowledge.domain, knowledge.topic]
  | .understanding => [knowledge.understanding]
  | .misconceptions => [knowledge.misconceptions]
  | .gaps => [knowledge.gaps]
  | .context => knowledge.context?.toList

def block? (knowledge : Knowledge) : Topic → Option Script
  | .subject => knowledge.subjectBlock?
  | .understanding => knowledge.understandingBlock?
  | .misconceptions => knowledge.misconceptionsBlock?
  | .gaps => knowledge.gapsBlock?
  | .context => knowledge.contextBlock?

/-- Some field of the topic carries text. -/
def IsTold (knowledge : Knowledge) (topic : Topic) : Prop :=
  ∃ field ∈ topic.fields knowledge, field ≠ ""

instance (knowledge : Knowledge) (topic : Topic) : Decidable (topic.IsTold knowledge) :=
  inferInstanceAs (Decidable (∃ field ∈ topic.fields knowledge, field ≠ ""))

variable {knowledge : Knowledge} {topic : Topic} {block : Script}

theorem isSome_block? : (topic.block? knowledge).isSome ↔ topic.IsTold knowledge := by
  cases topic with
  | subject =>
      by_cases hdomain : knowledge.domain = "" <;> by_cases htopic : knowledge.topic = "" <;>
        simp [block?, subjectBlock?, IsTold, fields, hdomain, htopic]
  | understanding =>
      by_cases h : knowledge.understanding = "" <;>
        simp [block?, understandingBlock?, IsTold, fields, h]
  | misconceptions =>
      by_cases h : knowledge.misconceptions = "" <;>
        simp [block?, misconceptionsBlock?, IsTold, fields, h]
  | gaps =>
      by_cases h : knowledge.gaps = "" <;> simp [block?, gapsBlock?, IsTold, fields, h]
  | context =>
      cases h : knowledge.context? with
      | none => simp [block?, contextBlock?, contextText?, nonEmpty?, IsTold, fields, h]
      | some context =>
          by_cases hcontext : context = "" <;>
            simp [block?, contextBlock?, contextText?, nonEmpty?, Option.filter, IsTold, fields, h,
              hcontext]

private theorem quotes_of_block? (h : topic.block? knowledge = some block) :
    block.quotes = (topic.fields knowledge).filter fun field => !field.isEmpty := by
  have hquotes : (topic.block? knowledge).elim [] Script.quotes =
      (topic.fields knowledge).filter fun field => !field.isEmpty := by
    cases topic with
    | subject => exact knowledge.quotes_subjectBlock
    | understanding => exact knowledge.quotes_understandingBlock
    | misconceptions => exact knowledge.quotes_misconceptionsBlock
    | gaps => exact knowledge.quotes_gapsBlock
    | context =>
        rw [block?, knowledge.quotes_contextBlock, contextText?, nonEmpty?, fields]
        exact Option.toList_filter
  rwa [h] at hquotes

private theorem field_infix_render (h : topic.block? knowledge = some block) {field : String}
    (hfield : field ∈ topic.fields knowledge) : field.toList <:+: block.render.toList := by
  by_cases hempty : field = ""
  · exact hempty ▸ List.nil_infix
  · have hpiece : Piece.verbatim field ∈ block := by
      rw [← Script.mem_quotes, quotes_of_block? h, List.mem_filter]
      exact ⟨hfield, by simpa using hempty⟩
    exact Script.infix_of_mem hpiece

/-- A block opens with prose, and not with the prose that stands in for all blocks. -/
private theorem exists_lead (h : topic.block? knowledge = some block) :
    ∃ (lead : String) (rest : Script) (spelling : Spelling lead), block = .prose lead :: rest ∧
      diverge spelling.letters passageGenericLearner.spelling.letters = true := by
  cases topic with
  | subject =>
      rw [block?, subjectBlock?] at h
      split at h <;> cases h
      exact ⟨_, _, .literal rfl, rfl, by decide +kernel⟩
  | understanding =>
      rw [block?, understandingBlock?] at h
      split at h <;> cases h
      exact ⟨_, _, passageUnderstandingLead.spelling, rfl, by decide +kernel⟩
  | misconceptions =>
      rw [block?, misconceptionsBlock?] at h
      split at h <;> cases h
      exact ⟨_, _, passageMisconceptionLead.spelling, rfl, by decide +kernel⟩
  | gaps =>
      rw [block?, gapsBlock?] at h
      split at h <;> cases h
      exact ⟨_, _, passageGapsLead.spelling, rfl, by decide +kernel⟩
  | context =>
      obtain ⟨context, -, rfl⟩ := Option.map_eq_some_iff.mp h
      exact ⟨_, _, .literal rfl, rfl, by decide +kernel⟩

private theorem render_append_ne (h : topic.block? knowledge = some block) (rest : String) :
    block.render ++ rest ≠ genericLearner ∧ block.render ++ rest ≠ "" := by
  obtain ⟨lead, later, spelling, rfl, hdiverge⟩ := exists_lead h
  have hletters : (Script.render (.prose lead :: later) ++ rest).toList =
      spelling.letters ++ (later.render ++ rest).toList := by
    rw [Script.render_cons, Piece.render, String.append_assoc, String.toList_append,
      spelling.toList_eq]
  constructor
  · intro heq
    rw [heq, passageGenericLearner.spelling.toList_eq] at hletters
    exact append_ne_of_diverge hdiverge (hletters.symm.trans (List.append_nil _).symm)
  · intro heq
    rw [heq] at hletters
    have hnil := (List.append_eq_nil_iff.mp hletters.symm).1
    rw [hnil] at hdiverge
    exact absurd hdiverge Bool.false_ne_true

private theorem misconceptionsBlock_eq (h : knowledge.misconceptionsBlock? = some block) :
    ∃ front middle back, block.render =
      front ++ knowledge.misconceptions ++ middle ++ resistAccuracy ++ back := by
  rw [misconceptionsBlock?] at h
  split at h <;> cases h
  refine ⟨"WHAT YOU BELIEVE (that is actually wrong):\n" ++ misconceptionLead ++ "\n",
    "\n\n" ++ misconceptionReasoning ++ "\n\n", "\n\n" ++ misconceptionCertainty, ?_⟩
  simp only [Script.render_cons, Script.render_nil, Piece.render, String.append_assoc,
    String.append_empty]

end Topic

/-! ## Blocks in their places -/

/-- A block as it stands in the section, counted in characters. -/
structure Placed where
  topic : Topic
  text : String
  start : Nat

namespace Placed

def stop (placed : Placed) : Nat := placed.start + placed.text.length

/-- The text goes on with the block from its place on. -/
def StandsIn (placed : Placed) (text : String) : Prop :=
  ∃ front back, text = front ++ placed.text ++ back ∧ front.length = placed.start

end Placed

/-- The blocks from a place on, with a blank line between each two. -/
def place : Nat → List (Topic × String) → List Placed
  | _, [] => []
  | start, (topic, text) :: others =>
      ⟨topic, text, start⟩ :: place (start + text.length + 2) others

theorem map_place (start : Nat) (blocks : List (Topic × String)) :
    (place start blocks).map (fun placed => (placed.topic, placed.text)) = blocks := by
  induction blocks generalizing start with
  | nil => rfl
  | cons block others ih => rw [place, List.map_cons, ih]

private theorem start_le_of_mem_place {start : Nat} {blocks : List (Topic × String)}
    {placed : Placed} (h : placed ∈ place start blocks) : start ≤ placed.start := by
  induction blocks generalizing start with
  | nil => simp [place] at h
  | cons block others ih =>
      rw [place, List.mem_cons] at h
      rcases h with rfl | hothers
      · exact Nat.le_refl _
      · have hstart := ih hothers
        omega

private theorem pairwise_place (start : Nat) (blocks : List (Topic × String)) :
    (place start blocks).Pairwise fun placed next => placed.stop + 2 ≤ next.start := by
  induction blocks generalizing start with
  | nil => exact .nil
  | cons block others ih => exact .cons (fun _ hnext => start_le_of_mem_place hnext) (ih _)

theorem standsIn_of_mem_place (front : String) {blocks : List (Topic × String)} {placed : Placed}
    (h : placed ∈ place front.length blocks) :
    placed.StandsIn (front ++ "\n\n".intercalate (blocks.map Prod.snd)) := by
  -- A block that has been passed joins the text in front.
  induction blocks generalizing front with
  | nil => simp [place] at h
  | cons block others ih =>
      rw [place, List.mem_cons] at h
      cases others with
      | nil =>
          obtain rfl : placed = _ := by simpa [place] using h
          exact ⟨front, "", by simp, rfl⟩
      | cons next others =>
          rw [List.map_cons, List.map_cons, String.intercalate_cons_cons, ← List.map_cons]
          rcases h with rfl | hothers
          · exact ⟨front, "\n\n" ++ "\n\n".intercalate ((next :: others).map Prod.snd),
              by simp only [String.append_assoc], rfl⟩
          · have hlength : (front ++ block.2 ++ "\n\n").length =
                front.length + block.2.length + 2 := by
              rw [String.length_append, String.length_append]
              rfl
            have hstands := ih (front ++ block.2 ++ "\n\n") (by rwa [hlength])
            simpa only [String.append_assoc] using hstands

/-! ## The whole section -/

variable {knowledge : Knowledge}

private theorem isNone_contextText? :
    knowledge.contextText?.isNone ↔ ¬ Topic.context.IsTold knowledge := by
  rw [← Topic.isSome_block?, Topic.block?, contextBlock?, Option.isSome_map]
  cases knowledge.contextText? <;> simp

theorem isBlank_iff : knowledge.isBlank ↔ ∀ topic ∈ Topic.all, ¬ topic.IsTold knowledge := by
  rw [isBlank, Bool.and_eq_true, isNone_contextText?]
  simp [Topic.all, Topic.IsTold, Topic.fields, and_assoc]

/-- The blocks of the section, each with its topic. -/
def toldBlocks (knowledge : Knowledge) : List (Topic × Script) :=
  Topic.all.filterMap fun topic => (topic.block? knowledge).map (topic, ·)

private theorem map_snd_toldBlocks : knowledge.toldBlocks.map Prod.snd = knowledge.blocks := by
  rw [toldBlocks, List.map_filterMap]
  simp only [Option.map_map, Function.comp_def, Option.map_id']
  rfl

private theorem map_fst_toldBlocks :
    knowledge.toldBlocks.map Prod.fst = Topic.all.filter fun topic => topic.IsTold knowledge := by
  rw [toldBlocks]
  induction Topic.all with
  | nil => rfl
  | cons topic topics ih =>
      cases hblock : topic.block? knowledge with
      | none =>
          have htold : ¬ topic.IsTold knowledge := by simp [← Topic.isSome_block?, hblock]
          simp [hblock, ih, htold]
      | some block =>
          have htold : topic.IsTold knowledge := by simp [← Topic.isSome_block?, hblock]
          simp [hblock, ih, htold]

theorem toldBlocks_eq_nil_iff : knowledge.toldBlocks = [] ↔ knowledge.isBlank := by
  rw [← List.map_eq_nil_iff (f := Prod.fst), map_fst_toldBlocks, List.filter_eq_nil_iff,
    isBlank_iff]
  simp

theorem block?_of_mem_toldBlocks {told : Topic × Script} (h : told ∈ knowledge.toldBlocks) :
    told.1.block? knowledge = some told.2 := by
  obtain ⟨topic, -, htold⟩ := List.mem_filterMap.mp h
  obtain ⟨block, hblock, rfl⟩ := Option.map_eq_some_iff.mp htold
  exact hblock

theorem render_script_of_isBlank (h : knowledge.isBlank) :
    knowledge.script.render = genericLearner := by
  have hblocks : knowledge.blocks = [] := by
    rw [← map_snd_toldBlocks, toldBlocks_eq_nil_iff.mpr h]
    rfl
  rw [script, hblocks]
  change Script.render [.prose genericLearner] = genericLearner
  rw [Script.render_cons, Script.render_nil, Piece.render, String.append_empty]

theorem render_script_of_not_isBlank (h : ¬ knowledge.isBlank) :
    knowledge.script.render =
      "\n\n".intercalate (knowledge.toldBlocks.map fun told => told.2.render) := by
  have hblocks : knowledge.blocks ≠ [] := by
    rw [← map_snd_toldBlocks, Ne, List.map_eq_nil_iff, toldBlocks_eq_nil_iff]
    exact h
  have hscript : knowledge.script = Script.blocks knowledge.blocks := by
    rw [script]
    split
    · contradiction
    · rfl
  rw [hscript, Script.render_blocks, ← map_snd_toldBlocks, List.map_map]
  rfl

theorem render_script_ne (h : ¬ knowledge.isBlank) :
    knowledge.script.render ≠ genericLearner ∧ knowledge.script.render ≠ "" := by
  obtain ⟨⟨topic, block⟩, others, htold⟩ :=
    List.exists_cons_of_ne_nil (mt toldBlocks_eq_nil_iff.mp h)
  have hmem : (topic, block) ∈ knowledge.toldBlocks := by simp [htold]
  have hblock := block?_of_mem_toldBlocks hmem
  rw [render_script_of_not_isBlank h, htold, List.map_cons]
  cases others with
  | nil => simpa using Topic.render_append_ne hblock ""
  | cons next others =>
      rw [List.map_cons, String.intercalate_cons_cons, String.append_assoc]
      exact Topic.render_append_ne hblock _

/-! ## The blocks in the section -/

def placed (knowledge : Knowledge) : List Placed :=
  place 0 (knowledge.toldBlocks.map fun told => (told.1, told.2.render))

private theorem map_topic_placed : knowledge.placed.map Placed.topic =
    Topic.all.filter fun topic => topic.IsTold knowledge := by
  have htopics := congrArg (List.map Prod.fst)
    (map_place 0 (knowledge.toldBlocks.map fun told => (told.1, told.2.render)))
  rw [List.map_map, List.map_map] at htopics
  exact htopics.trans map_fst_toldBlocks

private theorem map_text_placed : knowledge.placed.map Placed.text =
    knowledge.toldBlocks.map fun told => told.2.render := by
  have htexts := congrArg (List.map Prod.snd)
    (map_place 0 (knowledge.toldBlocks.map fun told => (told.1, told.2.render)))
  rw [List.map_map, List.map_map] at htexts
  exact htexts

private theorem exists_block_of_mem_placed {found : Placed} (h : found ∈ knowledge.placed) :
    ∃ block, found.topic.block? knowledge = some block ∧ found.text = block.render := by
  have hmem := List.mem_map_of_mem (f := fun found : Placed => (found.topic, found.text)) h
  rw [placed, map_place] at hmem
  obtain ⟨⟨topic, block⟩, htold, hfound⟩ := List.mem_map.mp hmem
  obtain ⟨htopic, htext⟩ := Prod.mk.inj hfound
  rw [← htopic, ← htext]
  exact ⟨block, block?_of_mem_toldBlocks htold, rfl⟩

/--
The generic paragraph stands just for a learner of whom nothing is known, and the section
never is empty.  Otherwise it has one block for every topic with a text, in order, and each
block has the texts of its topic letter by letter; that on misconceptions asks to resist
accuracy after it has told them.
-/
theorem section_tells_fields (knowledge : Knowledge) :
    (knowledge.script.render = genericLearner ↔ knowledge.isBlank) ∧
    knowledge.script.render ≠ "" ∧
    (knowledge.isBlank ∨ ∃ placed : List Placed,
      (placed.map Placed.topic = Topic.all.filter fun topic => topic.IsTold knowledge) ∧
      knowledge.script.render = "\n\n".intercalate (placed.map Placed.text) ∧
      (placed.Pairwise fun block next => block.stop + 2 ≤ next.start) ∧
      ∀ block ∈ placed, block.StandsIn knowledge.script.render ∧
        (block.topic.block? knowledge).map Script.render = some block.text ∧
        (∀ field ∈ block.topic.fields knowledge, field.toList <:+: block.text.toList) ∧
        (block.topic = .misconceptions → ∃ front middle back, block.text =
          front ++ knowledge.misconceptions ++ middle ++ resistAccuracy ++ back)) := by
  by_cases hblank : knowledge.isBlank
  · have hrender := render_script_of_isBlank hblank
    have hgeneric : genericLearner ≠ "" := by decide +kernel
    exact ⟨iff_of_true hrender hblank, hrender ▸ hgeneric, .inl hblank⟩
  obtain ⟨hgeneric, hempty⟩ := render_script_ne hblank
  have hrender : knowledge.script.render =
      "\n\n".intercalate (knowledge.placed.map Placed.text) := by
    rw [map_text_placed, render_script_of_not_isBlank hblank]
  refine ⟨iff_of_false hgeneric hblank, hempty,
    .inr ⟨knowledge.placed, map_topic_placed, hrender, pairwise_place _ _, ?_⟩⟩
  rintro ⟨topic, text, start⟩ hplaced
  obtain ⟨block, hblock, rfl⟩ := exists_block_of_mem_placed hplaced
  refine ⟨?stands, by rw [hblock]; rfl, fun field => Topic.field_infix_render hblock, ?resists⟩
  case stands =>
    have hstands := standsIn_of_mem_place "" hplaced
    rw [render_script_of_not_isBlank hblank]
    simpa [Function.comp_def] using hstands
  case resists =>
    rintro rfl
    exact Topic.misconceptionsBlock_eq hblock

end Knowledge

end LearnerPersona
