/-! Reading the arguments of a command. A long option is written `--name` or `--name=value`; short
options share one argument, and the rest of it is the value of one that takes a value. What follows
`--` is not read as options. -/

namespace ServerUi

inductive UsageError where
  | unknownOption
  | valueMissing
  | valueUnexpected
  | argumentMissing
  | argumentUnexpected
  | nullCharacter
  | commandMissing
  | commandUnknown
  deriving DecidableEq

structure Options (ω : Type) where
  long : String → Option ω
  short : Char → Option ω
  takesValue : ω → Bool

/-- Arguments that are read: options with their values, in order, and all other arguments. The
value of an option that takes none is empty. -/
structure Arguments (ω : Type) where
  options : List (ω × String)
  rest : List String

namespace Arguments

def withOptions (given : List (ω × String)) (x : Arguments ω) : Arguments ω :=
  { x with options := given ++ x.options }

def withArgument (arg : String) (x : Arguments ω) : Arguments ω :=
  { x with rest := arg :: x.rest }

def value? [BEq ω] (x : Arguments ω) (o : ω) : Option String := x.options.reverse.lookup o

def has [BEq ω] (x : Arguments ω) (o : ω) : Bool := (x.value? o).isSome

end Arguments

/-- What one argument gives: options, and maybe one that takes the next argument as its value. -/
structure Reading (ω : Type) where
  given : List (ω × String)
  open? : Option ω

namespace Options

def readShort (known : Options ω) : List Char → Except UsageError (Reading ω)
  | [] => .ok ⟨[], none⟩
  | c :: rest =>
    match known.short c with
    | none => .error .unknownOption
    | some o =>
      if known.takesValue o then
        if rest.isEmpty then .ok ⟨[], some o⟩ else .ok ⟨[(o, String.ofList rest)], none⟩
      else do
        let more ← readShort known rest
        return ⟨(o, "") :: more.given, more.open?⟩

/-- Reads one long option, given what stands before and behind the first `=`. -/
def readLong (known : Options ω) (name : String) (value : Option String) :
    Except UsageError (Reading ω) :=
  match known.long name with
  | none => .error .unknownOption
  | some o =>
    match value with
    | none => if known.takesValue o then .ok ⟨[], some o⟩ else .ok ⟨[(o, "")], none⟩
    | some value =>
      if known.takesValue o then .ok ⟨[(o, value)], none⟩ else .error .valueUnexpected

/-- Whether an argument gives options; a single `-` does not. -/
def isOption (arg : String) : Bool :=
  match arg.toList with
  | '-' :: _ :: _ => true
  | _ => false

def readOne (known : Options ω) (arg : String) : Except UsageError (Reading ω) :=
  match arg.toList with
  | '-' :: '-' :: cs =>
    match cs.dropWhile (· != '=') with
    | [] => known.readLong (String.ofList cs) none
    | _ :: value =>
      known.readLong (String.ofList (cs.takeWhile (· != '='))) (some (String.ofList value))
  | cs => known.readShort (cs.drop 1)

/-- Reads arguments. Unless options are `mixed` with other arguments, they end at the first other
argument. -/
def read (known : Options ω) (mixed : Bool) : List String → Except UsageError (Arguments ω)
  | [] => .ok ⟨[], []⟩
  | arg :: rest =>
    if arg = "--" then .ok ⟨[], rest⟩
    else if isOption arg then do
      let reading ← known.readOne arg
      match reading.open?, rest with
      | none, rest => Arguments.withOptions reading.given <$> read known mixed rest
      | some _, [] => throw .valueMissing
      | some o, value :: rest =>
        Arguments.withOptions (reading.given ++ [(o, value)]) <$> read known mixed rest
    else if mixed then Arguments.withArgument arg <$> read known mixed rest
    else .ok ⟨[], arg :: rest⟩

end Options

end ServerUi
