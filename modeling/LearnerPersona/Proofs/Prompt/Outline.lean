import LearnerPersona.Proofs.Prompt.Passages

/-!
# Headings and quotations in a script

A script is clear when plain prose stands between any two of its headings and
quoted texts.  In the rendering of a clear script a heading occurs where the
script has it as a title and inside the quoted texts, and nowhere else.
-/

namespace LearnerPersona

open LearnerPersona.Text

/-! ## What a script is made of -/

def Script.headings (script : Script) : List Heading :=
  script.filterMap fun
    | .title heading => some heading
    | _ => none

def Script.quotes (script : Script) : List String :=
  script.filterMap fun
    | .verbatim text => some text
    | _ => none

def Script.shift (offset : Nat) (placed : Heading × Nat) : Heading × Nat :=
  (placed.1, offset + placed.2)

/-- The headings of the script, and where each of them begins. -/
def Script.titles : Script → List (Heading × Nat)
  | [] => []
  | .title heading :: rest =>
      (heading, 0) :: (titles rest).map (shift heading.line.length)
  | piece :: rest => (titles rest).map (shift piece.render.length)

def Script.positions (heading : Heading) : Script → List Nat
  | [] => []
  | piece :: rest =>
      heading.positions piece.render ++
        (positions heading rest).map (piece.render.length + ·)

/-! ## Rendering -/

namespace Script

@[simp] theorem render_nil : render [] = "" := rfl

@[simp] theorem render_cons (piece : Piece) (rest : Script) :
    render (piece :: rest) = piece.render ++ rest.render := by
  simp [render, String.join_cons]

@[simp] theorem render_append (front back : Script) :
    render (front ++ back) = front.render ++ back.render := by
  induction front with
  | nil => simp
  | cons piece front ih => simp [ih, String.append_assoc]

@[simp] theorem headings_append (front back : Script) :
    headings (front ++ back) = front.headings ++ back.headings :=
  List.filterMap_append

@[simp] theorem quotes_append (front back : Script) :
    quotes (front ++ back) = front.quotes ++ back.quotes :=
  List.filterMap_append

theorem headings_blocks (parts : List Script) :
    (blocks parts).headings = parts.flatMap headings := by
  fun_induction blocks parts with
  | case1 => rfl
  | case2 part => simp
  | case3 part next parts ih =>
      rw [headings_append, List.flatMap_cons, ← ih]
      rfl

theorem quotes_filterMap_id (parts? : List (Option Script)) :
    (parts?.filterMap id).flatMap quotes = parts?.flatMap fun part? => part?.elim [] quotes := by
  induction parts? with
  | nil => rfl
  | cons part? parts? ih => cases part? <;> simpa using ih

theorem quotes_blocks (parts : List Script) :
    (blocks parts).quotes = parts.flatMap quotes := by
  fun_induction blocks parts with
  | case1 => rfl
  | case2 part => simp
  | case3 part next parts ih =>
      rw [quotes_append, List.flatMap_cons, ← ih]
      rfl

theorem blocks_concat (part last : Script) (parts : List Script) :
    blocks (part :: (parts ++ [last])) = blocks (part :: parts) ++ .prose "\n\n" :: last := by
  induction parts generalizing part with
  | nil => simp [blocks]
  | cons next parts ih =>
      rw [List.cons_append, blocks, ih, blocks]
      simp

@[simp] theorem headings_paragraphs (passages : List String) :
    (paragraphs passages).headings = [] := by
  rw [paragraphs, headings_blocks, List.flatMap_map]
  exact List.flatMap_eq_nil_iff.mpr fun _ _ => rfl

@[simp] theorem quotes_paragraphs (passages : List String) :
    (paragraphs passages).quotes = [] := by
  rw [paragraphs, quotes_blocks, List.flatMap_map]
  exact List.flatMap_eq_nil_iff.mpr fun _ _ => rfl

@[simp] theorem headings_under (heading : Heading) (body : Script) :
    (under heading body).headings = heading :: body.headings := rfl

@[simp] theorem quotes_under (heading : Heading) (body : Script) :
    (under heading body).quotes = body.quotes := rfl

end Script

/-! ## Clear scripts -/

/-- Prose is plain; headings and quoted texts may be anything. -/
def Piece.Sound (piece : Piece) : Prop :=
  ∀ passage, piece = .prose passage → Plain passage

@[simp] theorem Piece.sound_title (heading : Heading) : (Piece.title heading).Sound :=
  nofun

@[simp] theorem Piece.sound_verbatim (text : String) : (Piece.verbatim text).Sound :=
  nofun

@[simp] theorem Piece.sound_prose {passage : String} :
    (Piece.prose passage).Sound ↔ Plain passage := by
  simp [Piece.Sound]

namespace Script

/-- Plain prose stands between any two headings or quoted texts. -/
inductive Clear : Script → Prop
  | nil : Clear []
  | last {piece : Piece} : piece.Sound → Clear [piece]
  | prose {passage : String} {rest : Script} :
      Plain passage → Clear rest → Clear (.prose passage :: rest)
  | apart {piece : Piece} {passage : String} {rest : Script} :
      piece.Sound → Plain passage → Clear rest → Clear (piece :: .prose passage :: rest)

namespace Clear

variable {front back : Script} {passage : String}

private theorem append_prose (hfront : Clear front) (hpassage : Plain passage)
    (hback : Clear back) :
    Clear (front ++ .prose passage :: back) := by
  induction hfront with
  | nil => exact .prose hpassage hback
  | last hsound => exact .apart hsound hpassage hback
  | prose hplain _ ih => exact .prose hplain ih
  | apart hsound hplain _ ih => exact .apart hsound hplain ih

theorem plain_break : Plain "\n\n" := .literal rfl (by decide)

theorem blocks {parts : List Script} (h : ∀ part ∈ parts, Clear part) :
    Clear (Script.blocks parts) := by
  fun_induction Script.blocks parts with
  | case1 => exact .nil
  | case2 part => exact h part (by simp)
  | case3 part next parts ih =>
      exact append_prose (h part (by simp)) plain_break (ih fun other hother =>
        h other (List.mem_cons_of_mem _ hother))

theorem paragraphs {passages : List String} (h : ∀ passage ∈ passages, Plain passage) :
    Clear (Script.paragraphs passages) := by
  apply blocks
  intro part hpart
  obtain ⟨passage, hpassage, rfl⟩ := List.mem_map.mp hpart
  exact .prose (h passage hpassage) .nil

theorem under {body : Script} (heading : Heading) (hbody : Clear body) :
    Clear (Script.under heading body) :=
  .apart (Piece.sound_title heading) (.literal rfl (by decide)) hbody

theorem sound {script : Script} (h : Clear script) : ∀ piece ∈ script, piece.Sound := by
  induction h with
  | nil => simp
  | last hsound => simpa using hsound
  | prose hplain _ ih => exact List.forall_mem_cons.mpr ⟨Piece.sound_prose.mpr hplain, ih⟩
  | apart hsound hplain _ ih =>
      exact List.forall_mem_cons.mpr
        ⟨hsound, List.forall_mem_cons.mpr ⟨Piece.sound_prose.mpr hplain, ih⟩⟩

/-- In the rendering of a clear script no heading lies across two pieces. -/
theorem positions_render {script : Script} (h : Clear script) (heading : Heading) :
    heading.positions script.render = script.positions heading := by
  induction h with
  | nil => rfl
  | last => simp [Script.positions]
  | prose hplain _ ih =>
      rw [render_cons, Script.positions, Piece.render, hplain.positions_eq_nil, List.nil_append,
        ← ih, hplain.positions_append_left]
  | apart _ hplain _ ih =>
      simp only [render_cons, Script.positions]
      rw [Piece.render, hplain.positions_eq_nil, List.nil_append, ← ih,
        hplain.positions_append_right, hplain.positions_append_left]

end Clear

/-- What stands under a heading: a clear script with no heading of its own. -/
structure Body (script : Script) : Prop where
  clear : Clear script
  untitled : script.headings = []

namespace Body

theorem nil : Body [] := ⟨.nil, rfl⟩

theorem blocks {parts : List Script} (h : ∀ part ∈ parts, Body part) :
    Body (Script.blocks parts) where
  clear := .blocks fun part hpart => (h part hpart).clear
  untitled := by
    rw [headings_blocks, List.flatMap_eq_nil_iff]
    exact fun part hpart => (h part hpart).untitled

theorem paragraphs {passages : List String} (h : ∀ passage ∈ passages, Plain passage) :
    Body (Script.paragraphs passages) :=
  ⟨.paragraphs h, headings_paragraphs passages⟩

end Body

/-! ## Counting -/

theorem positions_line (heading other : Heading) :
    heading.positions other.line = if other = heading then [0] else [] := by
  rw [Heading.positions, heading.spelling.toList_eq, other.spelling.toList_eq]
  cases heading <;> cases other <;> decide +kernel

/-- A heading occurs once for every title and as often as in the quoted texts. -/
theorem length_positions {script : Script} (heading : Heading)
    (h : ∀ piece ∈ script, piece.Sound) :
    (script.positions heading).length =
      script.headings.count heading + heading.countAll script.quotes := by
  induction script with
  | nil => rfl
  | cons piece rest ih =>
      have hrest := ih fun other hother => h other (List.mem_cons_of_mem _ hother)
      rw [Script.positions, List.length_append, List.length_map, hrest]
      cases piece with
      | title other =>
          by_cases hsame : other = heading
          · simp [Piece.render, positions_line, headings, quotes, hsame]
            omega
          · simp [Piece.render, positions_line, headings, quotes, hsame]
      | prose passage =>
          have hplain := h (.prose passage) List.mem_cons_self passage rfl
          simp [Piece.render, hplain.positions_eq_nil, headings, quotes]
      | verbatim text =>
          simp [Piece.render, headings, quotes, Heading.count]
          omega

theorem positions_append (heading : Heading) (front back : Script) :
    positions heading (front ++ back) =
      positions heading front ++
        (positions heading back).map ((render front).length + ·) := by
  induction front with
  | nil => simp [positions]
  | cons piece front ih => simp [positions, ih, Function.comp_def, Nat.add_assoc]

/-- Behind a title that comes once, prose and other titles have no further occurrence. -/
theorem positions_title_cons {heading : Heading} {rest : Script}
    (hsound : ∀ piece ∈ rest, piece.Sound) (hheading : heading ∉ rest.headings)
    (hquotes : rest.quotes = []) : positions heading (.title heading :: rest) = [0] := by
  have hlength := length_positions heading hsound
  rw [hquotes, Heading.countAll_nil, List.count_eq_zero.mpr hheading] at hlength
  rw [positions, List.length_eq_zero_iff.mp hlength, Piece.render, positions_line, if_pos rfl]
  rfl

/-! ## Where an occurrence lies -/

theorem mem_positions {script : Script} {heading : Heading} {position : Nat}
    (h : position ∈ script.positions heading) :
    ∃ front piece back offset, script = front ++ piece :: back ∧
      offset ∈ heading.positions piece.render ∧
      position = (render front).length + offset := by
  induction script generalizing position with
  | nil => simp [Script.positions] at h
  | cons piece rest ih =>
      rw [Script.positions, List.mem_append, List.mem_map] at h
      rcases h with hpiece | ⟨offset, hrest, rfl⟩
      · exact ⟨[], piece, rest, position, rfl, hpiece, by simp⟩
      · obtain ⟨front, other, back, inner, rfl, hinner, rfl⟩ := ih hrest
        exact ⟨piece :: front, other, back, inner, rfl, hinner, by simp [Nat.add_assoc]⟩

theorem mem_quotes {script : Script} {text : String} :
    text ∈ script.quotes ↔ Piece.verbatim text ∈ script := by
  simp only [quotes, List.mem_filterMap]
  constructor
  · rintro ⟨piece, hpiece, htext⟩
    split at htext <;> cases htext
    exact hpiece
  · intro htext
    exact ⟨.verbatim text, htext, rfl⟩

theorem infix_of_mem {script : Script} {piece : Piece} (h : piece ∈ script) :
    piece.render.toList <:+: script.render.toList := by
  obtain ⟨front, back, rfl⟩ := List.append_of_mem h
  refine ⟨(render front).toList, (render back).toList, ?_⟩
  simp

/-- No prose has a heading: an occurrence is a title or lies in a quoted text. -/
theorem mem_positions_piece {piece : Piece} {heading : Heading} {offset : Nat}
    (hsound : piece.Sound) (h : offset ∈ heading.positions piece.render) :
    piece = .title heading ∧ offset = 0 ∨ ∃ text, piece = .verbatim text := by
  cases piece with
  | title other =>
      rw [Piece.render, positions_line] at h
      split at h
      · exact .inl ⟨by simp [*], by simpa using h⟩
      · simp at h
  | prose passage =>
      rw [Piece.render, (Piece.sound_prose.mp hsound).positions_eq_nil] at h
      simp at h
  | verbatim text => exact .inr ⟨text, rfl⟩

/-! ## Titles -/

private theorem map_snd_filter_shift (heading : Heading) (offset : Nat)
    (placed : List (Heading × Nat)) :
    (((placed.map (shift offset)).filter fun title => title.1 = heading).map Prod.snd) =
      ((placed.filter fun title => title.1 = heading).map Prod.snd).map (offset + ·) := by
  rw [List.filter_map, List.map_map, List.map_map]
  rfl

theorem titles_map_fst (script : Script) : script.titles.map Prod.fst = script.headings := by
  induction script with
  | nil => rfl
  | cons piece rest ih =>
      cases piece <;> simpa [titles, headings, Function.comp_def, shift] using ih

theorem filter_titles_eq_singleton {titles : List (Heading × Nat)} {placed : Heading × Nat}
    (hnodup : (titles.map Prod.fst).Nodup) (hplaced : placed ∈ titles) :
    (titles.filter fun title => title.1 = placed.1) = [placed] := by
  induction titles with
  | nil => simp at hplaced
  | cons title titles ih =>
      rw [List.map_cons, List.nodup_cons] at hnodup
      rcases List.mem_cons.mp hplaced with rfl | hplaced
      · have hother : ∀ other ∈ titles, other.1 ≠ placed.1 := fun other hmem heq =>
          hnodup.1 (heq ▸ List.mem_map_of_mem hmem)
        simpa using hother
      · have hne : title.1 ≠ placed.1 := fun heq =>
          hnodup.1 (heq ▸ List.mem_map_of_mem hplaced)
        simp [hne, ih hnodup.2 hplaced]

theorem titles_append_prose (front : Script) (passage : String) :
    titles (front ++ [.prose passage]) = front.titles := by
  induction front with
  | nil => rfl
  | cons piece front ih => cases piece <;> simp [titles, ih]

theorem end_le_of_mem_titles {script : Script} {placed : Heading × Nat}
    (h : placed ∈ script.titles) :
    placed.2 + placed.1.line.length ≤ script.render.length := by
  induction script generalizing placed with
  | nil => simp [titles] at h
  | cons piece rest ih =>
      rw [render_cons, String.length_append]
      cases piece with
      | title heading =>
          rw [titles, List.mem_cons, List.mem_map] at h
          rcases h with rfl | ⟨inner, hinner, rfl⟩
          · simp [Piece.render]
          · have := ih hinner
            simp only [shift, Piece.render]
            omega
      | prose | verbatim =>
          obtain ⟨inner, hinner, rfl⟩ := List.mem_map.mp h
          have := ih hinner
          simp only [shift, Piece.render]
          omega

private theorem pairwise_map_shift (offset : Nat) {titles : List (Heading × Nat)}
    (h : titles.Pairwise fun first second => first.2 + first.1.line.length ≤ second.2) :
    (titles.map (shift offset)).Pairwise fun first second =>
      first.2 + first.1.line.length ≤ second.2 := by
  refine List.pairwise_map.mpr (h.imp ?_)
  intro first second hle
  simp only [shift]
  omega

theorem pairwise_titles (script : Script) :
    script.titles.Pairwise fun first second =>
      first.2 + first.1.line.length ≤ second.2 := by
  induction script with
  | nil => exact .nil
  | cons piece rest ih =>
      cases piece with
      | title heading =>
          refine .cons ?_ (pairwise_map_shift _ ih)
          intro other hother
          obtain ⟨inner, -, rfl⟩ := List.mem_map.mp hother
          simp [shift]
      | prose | verbatim => exact pairwise_map_shift _ ih

theorem positions_eq_titles {script : Script} {heading : Heading}
    (hsound : ∀ piece ∈ script, piece.Sound)
    (hquotes : ∀ text ∈ script.quotes, heading.positions text = []) :
    script.positions heading =
      (script.titles.filter fun title => title.1 = heading).map Prod.snd := by
  induction script with
  | nil => rfl
  | cons piece rest ih =>
      have hrest := ih (fun other hother => hsound other (List.mem_cons_of_mem _ hother))
        fun text htext => hquotes text
          (mem_quotes.mpr (List.mem_cons_of_mem _ (mem_quotes.mp htext)))
      rw [Script.positions, hrest]
      cases piece with
      | title other =>
          rw [Piece.render, positions_line]
          by_cases hsame : other = heading
          · simp [titles, hsame, map_snd_filter_shift]
          · simp [titles, hsame, map_snd_filter_shift]
      | prose passage =>
          have hplain := Piece.sound_prose.mp (hsound _ List.mem_cons_self)
          simp [Piece.render, hplain.positions_eq_nil, titles, map_snd_filter_shift]
      | verbatim text =>
          have htext := hquotes text (mem_quotes.mpr List.mem_cons_self)
          simp [Piece.render, htext, titles, map_snd_filter_shift]

end Script

end LearnerPersona
