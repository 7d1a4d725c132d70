import SessionRecorder.Glob.Basic

/-!
What a pattern looks at in a name. Many patterns are a text at a known place of the
name; the others need a regular expression. A pattern that goes by the base name or
by the extension of a name never matches a name that has none.
-/

namespace SessionRecorder.Glob

inductive Scope where
  | wholeName
  | baseName
  | extension
  | front
  | rear
  /-- The base name, character by character. -/
  | characters
  /-- A regular expression for the whole name; `extended` if it is only tried on names
  with the extension at the end of the pattern. -/
  | expression (extended : Bool)
deriving DecidableEq

/-- Whether a name without base name and extension is out of the question. -/
def Scope.needsBaseName : Scope → Bool
  | .baseName | .extension | .expression true => true
  | _ => false

def isText (p : Pattern) : Bool :=
  p.all fun
    | .literal _ => true
    | _ => false

def mentions (cs : List Char) (p : Pattern) : Bool :=
  p.any fun
    | .literal c => cs.contains c
    | _ => false

def withoutFolders : Pattern → Pattern
  | .anyFoldersFirst :: rest => rest
  | p => p

/-- A text without slashes behind any folders. -/
def isBaseName : Pattern → Bool
  | .anyFoldersFirst :: text => !text.isEmpty && isText text && !mentions ['/'] text
  | _ => false

/-- Characters and sets of characters behind any folders, none of which takes a slash. -/
def isCharacters : Pattern → Bool
  | .anyFoldersFirst :: rest => !rest.isEmpty && rest.all fun
    | .literal c => c != '/'
    | .oneOf negated ranges => ranges.any (inRange slash) == negated
    | _ => false
  | _ => false

/-- A star, a dot and a text without dots and slashes. -/
def isExtension : Pattern → Bool
  | .star :: .literal '.' :: text => isText text && !mentions ['.', '/'] text
  | _ => false

/-- A text before a star, or before any folders, at the end. -/
def isFront (p : Pattern) : Bool :=
  match p.reverse with
  | .star :: text => !text.isEmpty && isText text
  | .anyFoldersLast :: text => isText text
  | _ => false

/-- A text, behind a star if there is one. -/
def isRear : Pattern → Bool
  | [.star, .literal '/'] => false
  | .star :: text => !text.isEmpty && isText text
  | text => !text.isEmpty && isText text

/-- Whether reversed tokens begin with a text up to a dot, without slashes. -/
def endsInExtension : List Token → Bool
  | .literal c :: rest => c == '.' || (c != '/' && endsInExtension rest)
  | _ => false

def scope (p : Pattern) : Scope :=
  if isBaseName p then .baseName
  else if !p.isEmpty && isText p then .wholeName
  else if isExtension (withoutFolders p) then .extension
  else if isFront p then .front
  else if isRear (withoutFolders p) then .rear
  else if endsInExtension p.reverse then .expression true
  else if isCharacters p then .characters
  else .expression false

/-- Whether a pattern matches a name. Folders alone match every name. -/
def matchesName (p : Pattern) (name : String) : Bool :=
  match p with
  | [.anyFoldersFirst] => true
  | p =>
    let octets := Text.utf8 name
    !((scope p).needsBaseName && endsInParent octets) && (remainders p [octets]).contains []

end SessionRecorder.Glob
