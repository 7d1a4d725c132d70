import SessionRecorder.Glob.Basic

/-!
Patterns read from text: `*`, `?`, `[…]`, nested `{…,…}`, escapes by backslash,
and `**` between slashes for any folders. The first error from the left counts.
-/

namespace SessionRecorder.Glob

inductive PatternError where
  | unclosedClass
  | invalidRange (low high : Char)
  | unopenedChoice
  | unclosedChoice
  | danglingEscape
deriving DecidableEq

def PatternError.message : PatternError → String
  | .unclosedClass => "unclosed character class; missing ']'"
  | .invalidRange low high => s!"invalid range; '{low}' > '{high}'"
  | .unopenedChoice =>
    "unopened alternate group; missing '\x7b' (maybe escape '\x7d' with '[\x7d]'?)"
  | .unclosedChoice =>
    "unclosed alternate group; missing '\x7d' (maybe escape '\x7b' with '[\x7b]'?)"
  | .danglingEscape => "dangling '\\'"

/-- The ranges of a class with the last one reaching up to `high`. -/
def extendLast (high : Char) : List (Char × Char) → Except PatternError (List (Char × Char))
  | (low, _) :: rest =>
    if high < low then .error (.invalidRange low high) else .ok ((low, high) :: rest)
  | [] => .ok [(high, high)]

/-- Reads a class to its closing bracket and gives the text behind it. `ranges` are
those read so far, the last one first; with `hyphen` a hyphen waits for the end of
the last range. A bracket or hyphen in the first place counts as itself. -/
def classBody (first hyphen : Bool) (ranges : List (Char × Char)) :
    List Char → Except PatternError (List (Char × Char) × List Char)
  | [] => .error .unclosedClass
  | c :: rest =>
    if c = ']' && !first then
      .ok ((if hyphen then ('-', '-') :: ranges else ranges).reverse, rest)
    else if c = '-' && !first && !hyphen then classBody false true ranges rest
    else if hyphen && c != ']' then do
      let ranges ← extendLast c ranges
      classBody false false ranges rest
    else classBody false hyphen ((c, c) :: ranges) rest

theorem classBody_length {first hyphen : Bool} {ranges out : List (Char × Char)}
    {cs rest : List Char} (h : classBody first hyphen ranges cs = .ok (out, rest)) :
    rest.length < cs.length := by
  induction cs generalizing first hyphen ranges with
  | nil => simp [classBody] at h
  | cons c cs ih =>
    simp only [classBody] at h
    split at h
    · simp only [Except.ok.injEq, Prod.mk.injEq] at h
      simp [h.2]
    · split at h
      · exact Nat.lt_succ_of_lt (ih h)
      · split at h
        · cases he : extendLast c ranges with
          | error e => rw [he] at h; simp [bind, Except.bind] at h
          | ok out' => rw [he] at h; exact Nat.lt_succ_of_lt (ih h)
        · exact Nat.lt_succ_of_lt (ih h)

/-- A choice that is still open: its finished branches, and the tokens in front of
it, both with the last one first. -/
structure OpenChoice where
  branches : List (List Token)
  before : List Token

/-- What has been read: the tokens of the current branch, the last one first, and
the open choices from the inside. -/
structure Reading where
  tokens : List Token
  choices : List OpenChoice

namespace Reading

def start : Reading := ⟨[], []⟩

def push (t : Token) (r : Reading) : Reading := { r with tokens := t :: r.tokens }

def openChoice (r : Reading) : Reading := ⟨[], ⟨[], r.tokens⟩ :: r.choices⟩

/-- A comma ends a branch of a choice; outside of choices it stands for itself. -/
def comma (r : Reading) : Reading :=
  match r.choices with
  | [] => r.push (.literal ',')
  | c :: outer => ⟨[], { c with branches := r.tokens.reverse :: c.branches } :: outer⟩

def closeChoice (r : Reading) : Except PatternError Reading :=
  match r.choices with
  | [] => .error .unopenedChoice
  | c :: outer => .ok ⟨.choice (r.tokens.reverse :: c.branches).reverse :: c.before, outer⟩

/-- The token in place of the last one when folders follow it: the folders take the
last slash with them, and add nothing to folders that are already there. -/
def mergeFolders (folders : Token) (r : Reading) : Reading :=
  match r.tokens with
  | .anyFoldersFirst :: _ => r
  | .anyFoldersLast :: _ => r
  | _ :: rest => { r with tokens := folders :: rest }
  | [] => r.push folders

/-- Two stars behind the character `prev` and before `next`, and whether they take
the slash behind them. They stand for folders where nothing but slashes, or the
ends of a branch, surround them, and else for two stars. -/
def doubleStar (prev next : Option Char) (r : Reading) : Reading × Bool :=
  let twoStars : Reading × Bool := ((r.push .star).push .star, false)
  let inChoice := !r.choices.isEmpty
  if r.tokens.isEmpty then
    match next with
    | none => (r.push .anyFoldersFirst, false)
    | some '/' => (r.push .anyFoldersFirst, true)
    | some _ => twoStars
  else if prev != some '/' && !(inChoice && (prev == some ',' || prev == some '\x7b')) then
    twoStars
  else
    match next with
    | none => (r.mergeFolders .anyFoldersLast, false)
    | some '/' => (r.mergeFolders .anyFolders, true)
    | some c =>
      if inChoice && (c == ',' || c == '\x7d') then (r.mergeFolders .anyFoldersLast, false)
      else twoStars

end Reading

/-- The pattern in a text of which `prev` was the last character read. -/
def parseFrom (prev : Option Char) (r : Reading) (cs : List Char) :
    Except PatternError Pattern :=
  match cs with
  | [] => if r.choices.isEmpty then .ok r.tokens.reverse else .error .unclosedChoice
  | '?' :: rest => parseFrom (some '?') (r.push .any) rest
  | '*' :: '*' :: rest =>
    match r.doubleStar prev rest.head? with
    | (r, true) => parseFrom (some '/') r rest.tail
    | (r, false) => parseFrom (some '*') r rest
  | '*' :: rest => parseFrom (some '*') (r.push .star) rest
  | '[' :: rest =>
    let negated := rest.head? == some '!' || rest.head? == some '^'
    match _h : classBody true false [] (if negated then rest.tail else rest) with
    | .error e => .error e
    | .ok (ranges, rest') => parseFrom (some ']') (r.push (.oneOf negated ranges)) rest'
  | '\x7b' :: rest => parseFrom (some '\x7b') r.openChoice rest
  | '\x7d' :: rest =>
    match r.closeChoice with
    | .error e => .error e
    | .ok r => parseFrom (some '\x7d') r rest
  | ',' :: rest => parseFrom (some ',') r.comma rest
  | '\\' :: c :: rest => parseFrom (some c) (r.push (.literal c)) rest
  | ['\\'] => .error .danglingEscape
  | c :: rest => parseFrom (some c) (r.push (.literal c)) rest
termination_by cs.length
decreasing_by
  all_goals simp_wf
  all_goals try omega
  · have := classBody_length (by assumption)
    have tail : rest.tail.length ≤ rest.length := by simp
    split at this <;> omega

def ofText (text : String) : Except PatternError Pattern := parseFrom none .start text.toList

end SessionRecorder.Glob
