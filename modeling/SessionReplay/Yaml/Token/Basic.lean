import SessionReplay.Yaml.Fault

/-!
# Tokens

The signs of YAML text: indicators, properties and scalars, and the beginnings and ends of blocks,
which the text shows by its indentation alone.
-/

namespace SessionReplay.Yaml

structure Version where
  major : Nat
  minor : Nat
deriving DecidableEq, Repr

namespace Version

/-- The version whose rules hold unless a directive names another. -/
def standard : Version := ⟨1, 2⟩

def isKnown (version : Version) : Bool := version == ⟨1, 1⟩ || version == ⟨1, 2⟩

def isOld (version : Version) : Bool := version == ⟨1, 1⟩

def isNewer (version : Version) : Bool :=
  1 < version.major || (version.major == 1 && 1 < version.minor)

end Version

inductive TokenKind where
  | yamlDirective (version : Version)
  | tagDirective (handle replacement : Text)
  | otherDirective
  | documentStart
  | documentEnd
  | streamEnd
  | blockSequenceStart
  | blockMappingStart
  | blockEnd
  | flowSequenceStart
  | flowSequenceEnd
  | flowMappingStart
  | flowMappingEnd
  | flowEntry
  | blockEntry
  | key
  | value
  /-- A reference to an anchored node. -/
  | reference (name : Text)
  | anchor (name : Text)
  /-- A tag: the handle that stands for the beginning of it, and the rest. -/
  | tag (handle : Option Text) (suffix : Text)
  /-- A scalar; a plain one has no quotes and is no block. -/
  | scalar (text : Text) (plain : Bool)
deriving DecidableEq, Repr

structure Token where
  kind : TokenKind
  start : Mark
  stop : Mark
deriving DecidableEq, Repr

/-- A token, and the version whose rules hold when it is read. Directives further on may have been
passed by then, because tokens are looked for behind it to find out what it belongs to. -/
structure ReadToken where
  token : Token
  version : Version
deriving DecidableEq, Repr

/-- Tokens in order; if a fault ends them, it is met when a token behind the last one is wanted. -/
structure TokenStream where
  tokens : List ReadToken
  fault : Option Fault

def TokenStream.behind (tokens : List ReadToken) (stream : TokenStream) : TokenStream :=
  { stream with tokens := tokens ++ stream.tokens }

def Cursor.refuse {α : Type} (cursor : Cursor) : Except Fault α := .error (.syntaxAt cursor.mark)

end SessionReplay.Yaml
