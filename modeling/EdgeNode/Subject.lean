import EdgeNode.Text.Split
/-!
# Subjects

A subject is a text of tokens between dots.  In a pattern the token `*` stands for one token that
is not empty, and a last token `>` for one or more tokens.
-/

namespace EdgeNode.Subject

/-- The tokens of a subject. -/
def tokens (s : String) : List (List Char) :=
  Text.split '.' s.toList

/-- Whether pattern tokens cover subject tokens. -/
def coversTokens : List (List Char) → List (List Char) → Bool
  | [], [] => true
  | [], _ :: _ => false
  | p :: ps, subject =>
    if p = ['>'] then ps.isEmpty && !subject.isEmpty
    else
      match subject with
      | [] => false
      | s :: ss => (if p = ['*'] then !s.isEmpty else p == s) && coversTokens ps ss

/-- Whether a pattern covers a subject. -/
def covers (pattern subject : String) : Bool :=
  coversTokens (tokens pattern) (tokens subject)

end EdgeNode.Subject
