/-!
# Prompts as scripts

A prompt is laid out as a script: a list of pieces, each of them a heading, a
passage of fixed prose, or a text taken verbatim from the profile.  Rendering
forgets which is which; the script remembers, so that statements about where a
learner's own words end up can be made about the pieces.
-/

namespace LearnerPersona

/-! ## Headings -/

inductive Heading where
  | identity | knowledge | cognition | motivation
  | communication | tensions | innerVoice | boundaries
  deriving DecidableEq, Repr

def Heading.line : Heading → String
  | .identity => "=== WHO YOU ARE ==="
  | .knowledge => "=== WHAT YOU KNOW AND DON'T KNOW ==="
  | .cognition => "=== HOW YOU THINK ==="
  | .motivation => "=== HOW YOU FEEL ABOUT LEARNING ==="
  | .communication => "=== HOW YOU COMMUNICATE ==="
  | .tensions => "=== WHEN YOUR TRAITS INTERACT ==="
  | .innerVoice => "=== YOUR INNER VOICE ==="
  | .boundaries => "=== IMPORTANT BOUNDARIES ==="

/-! ## Pieces -/

/-- A part of a prompt and where it comes from. -/
inductive Piece where
  | title (heading : Heading)
  | prose (passage : String)
  /-- Text of the profile, copied as it stands. -/
  | verbatim (text : String)
  deriving DecidableEq, Repr

def Piece.render : Piece → String
  | .title heading => heading.line
  | .prose passage => passage
  | .verbatim text => text

abbrev Script := List Piece

namespace Script

def render (script : Script) : String :=
  String.join (script.map Piece.render)

/-- The parts in order, a blank line between each two. -/
def blocks : List Script → Script
  | [] => []
  | [part] => part
  | part :: next :: parts => part ++ .prose "\n\n" :: blocks (next :: parts)

def paragraphs (passages : List String) : Script :=
  blocks (passages.map fun passage => [.prose passage])

def under (heading : Heading) (body : Script) : Script :=
  .title heading :: .prose "\n" :: body

end Script

end LearnerPersona
