/-!
# Glob patterns

Patterns over whole texts: `?` stands for any one character, `*` for any sequence, brackets for one
character in or out of a set, and `**` as a whole path component for any number of components.
Slashes and leading dots are not special to `?`, `*` and brackets. A pattern that breaks these rules
is no pattern.

What matches is defined by trying every end of the text behind a sequence. It is computed by
marking, from the last token to the first, the ends of the text that the tokens match, which takes
no more steps than there are pairs of a token and a character.

## Main statements

- `marks_eq`: the marks are those of the ends that match.
- `matchesText_eq`: so what is computed is what is defined.
-/

namespace WorkloadGuard.Glob

/-! ## Patterns -/

/-- A part of the set between brackets. -/
inductive CharSpec where
  | single (c : Char)
  | range (first last : Char)
  deriving DecidableEq, Repr

def CharSpec.admits (spec : CharSpec) (c : Char) : Bool :=
  match spec with
  | single d => c == d
  | range first last => first ≤ c && c ≤ last

/-- A part of a pattern. -/
inductive Token where
  | char (c : Char)
  | anyChar
  | anySequence
  | anyComponents
  | within (specs : List CharSpec)
  | except (specs : List CharSpec)
  deriving DecidableEq, Repr

/-! ## Reading patterns -/

def charSpecs : List Char → List CharSpec
  | first :: '-' :: last :: rest => .range first last :: charSpecs rest
  | c :: rest => .single c :: charSpecs rest
  | [] => []

/-- The text up to the first closing bracket that is not at the front, and what follows it. -/
def splitBracket? : List Char → Option (List Char × List Char)
  | [] => none
  | c :: cs =>
    match cs.span (· != ']') with
    | (inside, _ :: rest) => some (c :: inside, rest)
    | (_, []) => none

/-- The token for a bracket that has just been opened, and what follows it. -/
def bracket? : List Char → Option (Token × List Char)
  | '!' :: cs => (splitBracket? cs).map fun (inside, rest) => (.except (charSpecs inside), rest)
  | cs => (splitBracket? cs).map fun (inside, rest) => (.within (charSpecs inside), rest)

/-- The tokens of a pattern. -/
def tokens? (fuel : Nat) (atComponent : Bool) : List Char → Option (List Token)
  -- the flag `atComponent` says whether a path component begins here, and `fuel` bounds the number
  -- of tokens
  | [] => some []
  | c :: cs =>
    match fuel with
    | 0 => none
    | fuel + 1 =>
      match c, cs with
      | '?', cs => (tokens? fuel false cs).map (.anyChar :: ·)
      | '*', '*' :: '*' :: _ => none
      | '*', '*' :: '/' :: cs =>
        if atComponent then (tokens? fuel true cs).map (.anyComponents :: ·) else none
      | '*', ['*'] => if atComponent then some [.anyComponents] else none
      | '*', '*' :: _ => none
      | '*', cs => (tokens? fuel false cs).map (.anySequence :: ·)
      | '[', cs => do
        let (token, rest) ← bracket? cs
        (tokens? fuel false rest).map (token :: ·)
      | c, cs => (tokens? fuel (c == '/') cs).map (.char c :: ·)

def parse? (pattern : String) : Option (List Token) :=
  tokens? pattern.toList.length true pattern.toList

/-! ## Matching -/

/-- Whether a token that stands for one character stands for this one. -/
def Token.admits (token : Token) (c : Char) : Bool :=
  match token with
  | char d => c == d
  | anyChar => true
  | within specs => specs.any (·.admits c)
  | except specs => !specs.any (·.admits c)
  | anySequence | anyComponents => false

def ends : List Char → List (List Char)
  | [] => [[]]
  | c :: cs => (c :: cs) :: ends cs

def behindSlash? : List Char → Option (List Char)
  | '/' :: cs => some cs
  | _ => none

/-- The ends of a text at which a number of components is over: right here, behind a slash, or
behind everything. -/
def componentEnds (text : List Char) : List (List Char) :=
  text :: [] :: (ends text).filterMap behindSlash?

def matchesChars : List Token → List Char → Bool
  | [], text => text.isEmpty
  | .anySequence :: tokens, text => (ends text).any (matchesChars tokens)
  | .anyComponents :: tokens, text => (componentEnds text).any (matchesChars tokens)
  | _ :: _, [] => false
  | token :: tokens, c :: text => token.admits c && matchesChars tokens text

/-! ## Marking -/

def markLonger (marks : List Bool) : List Bool :=
  marks.foldr (fun mark later => (mark || later.headD false) :: later) []

/-- Marks the ends that begin with a character in front of a marked end. -/
def markBehind (admits : Char → Bool) : List Char → List Bool → List Bool
  | c :: cs, _ :: marks => (admits c && marks.headD false) :: markBehind admits cs marks
  | _, _ => [false]

/-- Marks the ends that a token and the tokens behind it match, given those that the latter
match. -/
def markToken (text : List Char) (token : Token) (marks : List Bool) : List Bool :=
  match token with
  | .anySequence => markLonger marks
  | .anyComponents =>
    List.zipWith (fun here later => here || (marks.getLastD false || later)) marks
      (markLonger (markBehind (· == '/') text marks))
  | token => markBehind token.admits text marks

def marks (tokens : List Token) (text : List Char) : List Bool :=
  tokens.foldr (markToken text) ((ends text).map List.isEmpty)

def matchesText (tokens : List Token) (text : String) : Bool :=
  (marks tokens text.toList).headD false

/-! ## Correctness of marking -/

theorem ends_eq_cons (text : List Char) : ∃ rest, ends text = text :: rest := by
  cases text with
  | nil => exact ⟨[], rfl⟩
  | cons c cs => exact ⟨ends cs, rfl⟩

theorem headD_map_ends (f : List Char → Bool) (text : List Char) :
    ((ends text).map f).headD false = f text := by
  obtain ⟨rest, h⟩ := ends_eq_cons text
  rw [h, List.map_cons, List.headD_cons]

theorem getLastD_map_ends (f : List Char → Bool) (text : List Char) :
    ((ends text).map f).getLastD false = f [] := by
  induction text with
  | nil => rfl
  | cons c cs ih =>
    obtain ⟨rest, h⟩ := ends_eq_cons cs
    rw [h] at ih
    rw [ends, h]
    simpa using ih

theorem markLonger_map_ends (f : List Char → Bool) (text : List Char) :
    markLonger ((ends text).map f) = (ends text).map fun rest => (ends rest).any f := by
  induction text with
  | nil => simp [ends, markLonger]
  | cons c cs ih =>
    rw [markLonger] at ih
    rw [ends, List.map_cons, markLonger, List.foldr_cons, ih, headD_map_ends, List.map_cons]
    rfl

/-- An end is marked by `markBehind` if it is a character in front of a marked end. -/
theorem markBehind_map_ends (admits : Char → Bool) (f : List Char → Bool) (text : List Char) :
    markBehind admits text ((ends text).map f) =
      (ends text).map fun rest =>
        match rest with
        | [] => false
        | c :: cs => admits c && f cs := by
  induction text with
  | nil => rfl
  | cons c cs ih => rw [ends, List.map_cons, markBehind, ih, headD_map_ends, List.map_cons]

theorem marks_eq (tokens : List Token) (text : List Char) :
    marks tokens text = (ends text).map (matchesChars tokens) := by
  induction tokens with
  | nil =>
    refine List.map_congr_left fun rest _ => ?_
    rw [matchesChars]
  | cons token tokens ih =>
    have hstep : marks (token :: tokens) text = markToken text token (marks tokens text) := rfl
    have hone (h : ∀ rest, matchesChars (token :: tokens) rest =
          match rest with
          | [] => false
          | c :: cs => token.admits c && matchesChars tokens cs) :
        markBehind token.admits text (marks tokens text) =
          (ends text).map (matchesChars (token :: tokens)) := by
      rw [ih, markBehind_map_ends]
      exact List.map_congr_left fun rest _ => (h rest).symm
    rw [hstep]
    cases token with
    | anySequence =>
      rw [markToken, ih, markLonger_map_ends]
      refine List.map_congr_left fun rest _ => ?_
      rw [matchesChars]
    | anyComponents =>
      rw [markToken, ih, getLastD_map_ends, markBehind_map_ends, markLonger_map_ends,
        List.zipWith_map, List.zipWith_self]
      refine List.map_congr_left fun rest _ => ?_
      rw [matchesChars, componentEnds, List.any_cons, List.any_cons, List.any_filterMap]
      congr 2
      refine List.any_congr rfl fun t => ?_
      match t with
      | [] => rfl
      | c :: cs =>
        by_cases hc : c = '/'
        · subst hc
          rfl
        · have hnone : behindSlash? (c :: cs) = none := by
            unfold behindSlash?
            split
            · rename_i h
              exact absurd (List.cons.inj h).1 hc
            · rfl
          simp [hnone, hc]
    | char d => exact hone fun rest => by cases rest <;> rw [matchesChars] <;> simp
    | anyChar => exact hone fun rest => by cases rest <;> rw [matchesChars] <;> simp
    | within specs => exact hone fun rest => by cases rest <;> rw [matchesChars] <;> simp
    | except specs => exact hone fun rest => by cases rest <;> rw [matchesChars] <;> simp

theorem matchesText_eq (tokens : List Token) (text : String) :
    matchesText tokens text = matchesChars tokens text.toList := by
  rw [matchesText, marks_eq, headD_map_ends]

end WorkloadGuard.Glob
