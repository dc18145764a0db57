/-!
# Text

Cutting text at separators and affixes, exactly on characters: nothing is trimmed or normalised.
Each function reads the characters of its argument, so its law is a law of lists.

## Main statements

- `dropLead?_eq_some_iff`: what is dropped and what is kept make up the text.
- `splitOn_eq_iff`: the pieces of a text are free of the separator and make up the text with it.
- `cut?_eq_some_iff`: a cut is made at the first occurrence of the separator.
- `dropTrailing_cases`: at most one character is dropped from the end of a text.
- `equalsIgnoringCase_iff`: texts are compared in lower case.
-/

namespace WorkloadGuard.Text

/-! ## Separators -/

/-- The pieces of `s` between the occurrences of `separator`; there is always at least one. -/
def splitOn (separator : Char) (s : String) : List String :=
  (s.toList.splitOn separator).map String.ofList

/-- The characters before the first `separator` and those after it, if it occurs. -/
def cutChars? (separator : Char) : List Char → Option (List Char × List Char)
  | [] => none
  | c :: cs =>
    if c = separator then some ([], cs)
    else (cutChars? separator cs).map fun parts => (c :: parts.1, parts.2)

/-- The text before the first `separator` and the text after it, if it occurs. -/
def cut? (separator : Char) (s : String) : Option (String × String) :=
  (cutChars? separator s.toList).map fun parts => (String.ofList parts.1, String.ofList parts.2)

/-- A cut is made at the first occurrence of the separator, and loses nothing else. -/
theorem cutChars?_eq_some_iff {c : Char} {cs before after : List Char} :
    cutChars? c cs = some (before, after) ↔ cs = before ++ c :: after ∧ c ∉ before := by
  induction cs generalizing before with
  | nil => simp [cutChars?]
  | cons d cs ih =>
    by_cases hd : d = c
    · subst hd
      cases before with
      | nil => simp [cutChars?]
      | cons e es => simp +contextual [cutChars?]
    · cases before with
      | nil => simp [cutChars?, hd]
      | cons e es =>
        simp only [cutChars?, hd, if_false, Option.map_eq_some_iff, Prod.exists, Prod.mk.injEq,
          List.cons.injEq, List.cons_append, List.mem_cons, not_or]
        constructor
        · rintro ⟨a, b, h, ⟨rfl, rfl⟩, rfl⟩
          obtain ⟨rfl, hmem⟩ := ih.1 h
          exact ⟨⟨rfl, rfl⟩, fun h => hd h.symm, hmem⟩
        · rintro ⟨⟨rfl, rfl⟩, _, hmem⟩
          exact ⟨es, after, ih.2 ⟨rfl, hmem⟩, ⟨rfl, rfl⟩, rfl⟩

theorem cutChars?_eq_none_iff {c : Char} {cs : List Char} :
    cutChars? c cs = none ↔ c ∉ cs := by
  induction cs with
  | nil => simp [cutChars?]
  | cons d cs ih =>
    by_cases hd : d = c
    · simp [cutChars?, hd]
    · simp only [cutChars?, hd, if_false, Option.map_eq_none_iff, ih, List.mem_cons, not_or]
      exact ⟨fun h => ⟨fun e => hd e.symm, h⟩, And.right⟩

/-! ### Pieces -/

theorem splitOn_ne_nil (c : Char) (s : String) : splitOn c s ≠ [] := by
  simp [splitOn]

private theorem notMem_of_mem_splitOnChars {c : Char} {cs piece : List Char}
    (hpiece : piece ∈ cs.splitOn c) : c ∉ piece := by
  induction cs generalizing piece with
  | nil =>
    rw [List.splitOn_nil, List.mem_singleton] at hpiece
    rw [hpiece]
    exact List.not_mem_nil
  | cons d cs ih =>
    rw [List.splitOn_cons_eq_if_modifyHead] at hpiece
    split at hpiece
    · rcases List.mem_cons.1 hpiece with rfl | hrest
      · exact List.not_mem_nil
      · exact ih hrest
    · rename_i hd
      -- the character goes to the front of the first piece
      obtain ⟨first, rest, hsplit⟩ := List.exists_cons_of_ne_nil (List.splitOn_ne_nil c cs)
      rw [hsplit] at ih hpiece
      rcases List.mem_cons.1 hpiece with rfl | hrest
      · have hfirst := ih List.mem_cons_self
        have hne : c ≠ d := fun h => hd (beq_iff_eq.2 h.symm)
        simp [hne, hfirst]
      · exact ih (List.mem_cons_of_mem _ hrest)

/-- A text and its pieces determine each other: the separator is in none of the pieces, and between
them it makes up the text. -/
theorem splitOn_eq_iff {c : Char} {s : String} {pieces : List String} :
    splitOn c s = pieces ↔
      pieces ≠ [] ∧ s = String.intercalate (String.singleton c) pieces ∧
        ∀ piece ∈ pieces, c ∉ piece.toList := by
  constructor
  · rintro rfl
    refine ⟨splitOn_ne_nil c s, ?_, ?_⟩
    · apply String.toList_inj.1
      simp [splitOn, Function.comp_def]
    · intro piece hpiece
      obtain ⟨chars, hchars, rfl⟩ := List.mem_map.1 hpiece
      rw [String.toList_ofList]
      exact notMem_of_mem_splitOnChars hchars
  · rintro ⟨hne, rfl, hfree⟩
    have hsplit : ([c].intercalate (pieces.map String.toList)).splitOn c =
        pieces.map String.toList := by
      refine List.splitOn_intercalate c ?_ (by simpa using hne)
      intro chars hchars
      obtain ⟨piece, hpiece, rfl⟩ := List.mem_map.1 hchars
      exact hfree piece hpiece
    rw [splitOn, String.toList_intercalate, String.toList_singleton, hsplit, List.map_map]
    simp [Function.comp_def]

/-- A text without the separator is its only piece. -/
theorem splitOn_of_notMem {c : Char} {s : String} (hfree : c ∉ s.toList) : splitOn c s = [s] := by
  apply splitOn_eq_iff.2
  refine ⟨List.cons_ne_nil _ _, by simp, ?_⟩
  intro piece hpiece
  rw [List.mem_singleton.1 hpiece]
  exact hfree

theorem splitOn_append (c : Char) (s t : String) :
    splitOn c (s ++ String.singleton c ++ t) = splitOn c s ++ splitOn c t := by
  have hchars : (s ++ String.singleton c ++ t).toList = s.toList ++ c :: t.toList := by simp
  rw [splitOn, hchars, List.splitOn_append_cons_self, List.map_append]
  rfl

/-! ### Cuts -/

theorem cut?_eq_some_iff {c : Char} {s before after : String} :
    cut? c s = some (before, after) ↔
      s = before ++ String.singleton c ++ after ∧ c ∉ before.toList := by
  rw [← String.toList_inj]
  simp only [cut?, Option.map_eq_some_iff, Prod.exists, cutChars?_eq_some_iff, Prod.mk.injEq,
    String.toList_append, String.toList_singleton, List.append_assoc, List.singleton_append]
  constructor
  · rintro ⟨_, _, ⟨hs, hfree⟩, rfl, rfl⟩
    simpa using ⟨hs, hfree⟩
  · rintro ⟨hs, hfree⟩
    exact ⟨before.toList, after.toList, ⟨hs, hfree⟩, String.ofList_toList, String.ofList_toList⟩

theorem cut?_eq_none_iff {c : Char} {s : String} : cut? c s = none ↔ c ∉ s.toList := by
  rw [cut?, Option.map_eq_none_iff, cutChars?_eq_none_iff]

/-! ## Affixes -/

def startsWith (lead s : String) : Bool :=
  lead.toList.isPrefixOf s.toList

/-- What follows the characters `lead` in `cs`, if `cs` begins with them. -/
def dropLeadChars? : List Char → List Char → Option (List Char)
  | [], cs => some cs
  | _ :: _, [] => none
  | d :: lead, c :: cs => if d = c then dropLeadChars? lead cs else none

def dropLead? (lead s : String) : Option String :=
  (dropLeadChars? lead.toList s.toList).map String.ofList

/-- `s` without its last character if that is `c`; only one is dropped. -/
def dropTrailing (c : Char) (s : String) : String :=
  if s.toList.getLast? = some c then String.ofList s.toList.dropLast else s

theorem dropLeadChars?_eq_some_iff {lead cs rest : List Char} :
    dropLeadChars? lead cs = some rest ↔ cs = lead ++ rest := by
  induction lead generalizing cs with
  | nil => simp [dropLeadChars?]
  | cons d lead ih =>
    cases cs with
    | nil => simp [dropLeadChars?]
    | cons c cs =>
      by_cases hdc : d = c
      · simp [dropLeadChars?, hdc, ih]
      · simp [dropLeadChars?, hdc, Ne.symm hdc]

theorem dropLead?_eq_some_iff {lead s rest : String} :
    dropLead? lead s = some rest ↔ s.toList = lead.toList ++ rest.toList := by
  constructor
  · intro h
    obtain ⟨cs, hcs, rfl⟩ := Option.map_eq_some_iff.1 h
    rw [dropLeadChars?_eq_some_iff.1 hcs, String.toList_ofList]
  · intro h
    rw [dropLead?, dropLeadChars?_eq_some_iff.2 h, Option.map_some, String.ofList_toList]

theorem dropLead?_eq_some_iff_append {lead s rest : String} :
    dropLead? lead s = some rest ↔ s = lead ++ rest := by
  rw [dropLead?_eq_some_iff, ← String.toList_append, String.toList_inj]

/-- A text begins with `lead` exactly when something follows `lead` in it. -/
theorem startsWith_iff {lead s : String} :
    startsWith lead s = true ↔ ∃ rest, s = lead ++ rest := by
  unfold startsWith
  rw [List.isPrefixOf_iff_prefix]
  constructor
  · rintro ⟨cs, hcs⟩
    refine ⟨String.ofList cs, String.toList_inj.1 ?_⟩
    rw [String.toList_append, String.toList_ofList, hcs]
  · rintro ⟨rest, rfl⟩
    exact ⟨rest.toList, String.toList_append.symm⟩

theorem dropTrailing_of_getLast?_ne {c : Char} {s : String} (h : s.toList.getLast? ≠ some c) :
    dropTrailing c s = s :=
  if_neg h

/-- Of a text that ends in the character, all but that character is kept. -/
theorem dropTrailing_append (c : Char) (s : String) :
    dropTrailing c (s ++ String.singleton c) = s := by
  have hlist : (s ++ String.singleton c).toList = s.toList ++ [c] := by
    simp
  have hlast : (s ++ String.singleton c).toList.getLast? = some c := by
    rw [hlist, List.getLast?_concat]
  rw [dropTrailing, if_pos hlast, hlist, List.dropLast_concat, String.ofList_toList]

theorem dropTrailing_cases (c : Char) (s : String) :
    s = dropTrailing c s ∨ s = dropTrailing c s ++ String.singleton c := by
  by_cases hlast : s.toList.getLast? = some c
  · right
    rw [dropTrailing, if_pos hlast]
    apply String.toList_inj.1
    obtain ⟨cs, hcs⟩ := List.getLast?_eq_some_iff.1 hlast
    simp [hcs]
  · left
    rw [dropTrailing_of_getLast?_ne hlast]

/-! ## Case -/

def equalsIgnoringCase (s t : String) : Bool :=
  s.toList.map Char.toLower == t.toList.map Char.toLower

/-- Two texts are equal in any case exactly if they are the same in lower case. -/
theorem equalsIgnoringCase_iff {s t : String} :
    equalsIgnoringCase s t = true ↔ s.toLower = t.toLower := by
  have hlower (u : String) : u.toLower.toList = u.toList.map Char.toLower := String.toList_map
  rw [equalsIgnoringCase, beq_iff_eq, ← String.toList_inj, hlower, hlower]

/-! ## Character classes -/

def isBlank (c : Char) : Bool :=
  let n := c.toNat
  (0x09 ≤ n && n ≤ 0x0D) || n == 0x20 || n == 0x85 || n == 0xA0 || n == 0x1680
    || (0x2000 ≤ n && n ≤ 0x200A) || n == 0x2028 || n == 0x2029 || n == 0x202F
    || n == 0x205F || n == 0x3000

def dropTrailingBlanks (cs : List Char) : List Char :=
  (cs.reverse.dropWhile isBlank).reverse

def trim (s : String) : String :=
  String.ofList (dropTrailingBlanks (s.toList.dropWhile isBlank))

def hexDigit? (c : Char) : Option Nat :=
  if '0' ≤ c ∧ c ≤ '9' then some (c.toNat - '0'.toNat)
  else if 'a' ≤ c ∧ c ≤ 'f' then some (c.toNat - 'a'.toNat + 10)
  else if 'A' ≤ c ∧ c ≤ 'F' then some (c.toNat - 'A'.toNat + 10)
  else none

/-- The number written by exactly `width` hexadecimal digits, and what follows them. -/
def hexNumber? (width : Nat) (cs : List Char) : Option (Nat × List Char) := do
  let digits := cs.take width
  if digits.length < width then none
  let value ← digits.foldlM (fun n c => (hexDigit? c).map (n * 16 + ·)) 0
  return (value, cs.drop width)

/-- The character with code point `n`; surrogates and numbers beyond the last plane have none. -/
def charOfCode? (n : Nat) : Option Char :=
  if h : n.isValidChar then some (Char.ofNatAux n h) else none

end WorkloadGuard.Text
