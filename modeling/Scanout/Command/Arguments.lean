import Scanout.Text.Number

/-!
# Command line arguments

What the command line may say. Options are long (`--crtc 2`, `--crtc=2`) or short (`-o DAC1`,
`-oDAC1`, `-o=DAC1`), short flags may be written together, and nothing after a lone `--` is an
option. A separate value must not look like an option. Every option may be given once, but for
the outputs, which add up.

Arguments are taken from the left, and the first one that ends the reading decides: a request for
help that stands in front of a mistake is answered, one behind it is not.
-/

set_option autoImplicit false
set_option relaxedAutoImplicit false

namespace Scanout.Command

/-- The options that there are. -/
inductive Name where
  | quiet
  | help
  | version
  | cvt
  | chip
  | crtc
  | output
  | bpp
  | base
  | memory
  | chunk
  | restore
  deriving DecidableEq, Repr

/-- The option needs a value. -/
def Name.takesValue : Name → Bool
  | quiet | help | version | cvt | restore => false
  | chip | crtc | output | bpp | base | memory | chunk => true

/-- What an argument turned out to be. -/
inductive Item where
  | flag (name : Name)
  | option (name : Name) (value : String)
  | positional (value : String)
  /-- Something that cannot be an option of the command. -/
  | unknown
  deriving DecidableEq, Repr

/-- A number below `limit` that may carry a sign, as long as its value is not negative. -/
def signedNumber? (limit : Nat) (text : String) : Option Nat :=
  match text.toList with
  | ['-'] => none
  | '-' :: rest =>
    if rest.head? = some '+' then none
    else match Text.Number.parse 10 1 rest with
      | .ok value => some value
      | .error _ => none
  | body =>
    match Text.Number.parse 10 limit body with
    | .ok value => some value
    | .error _ => none

/-- A number below `limit` without a minus sign. -/
def number? (limit : Nat) (text : String) : Option Nat :=
  match Text.Number.parse 10 limit text.toList with
  | .ok value => some value
  | .error _ => none

/-- The number that an option's value stands for, if the option wants one. -/
def Name.number? (name : Name) (text : String) : Option Nat :=
  match name with
  | crtc | bpp => signedNumber? 256 text
  | memory => signedNumber? UInt32.size text
  | chunk => Command.number? UInt64.size text
  | _ => none

/-- The option may have this value. -/
def Name.admits (name : Name) (text : String) : Bool :=
  match name with
  | crtc | bpp | memory | chunk => (name.number? text).isSome
  | _ => true

/-- The names under which a command knows its options, and what its operand may be. -/
structure Grammar where
  long : List (String × Name)
  short : List (Char × Name)
  /-- Which texts the one positional argument may be, if the command takes one. -/
  operand : Option (String → Bool) := none

/-- Options that every command has. -/
def commonLong : List (String × Name) :=
  [("quiet", .quiet), ("help", .help)]

/-- Short options that every command has. -/
def commonShort : List (Char × Name) :=
  [('q', .quiet), ('h', .help)]

/-- Options before the command's name. -/
def Grammar.top : Grammar where
  long := commonLong ++ [("version", .version)]
  short := commonShort ++ [('V', .version)]

/-- Options of the command that lists the chips. -/
def Grammar.chips : Grammar where
  long := commonLong
  short := commonShort

/-- The pixel clock that an argument stands for. -/
def clock? (text : String) : Option UInt32 :=
  (signedNumber? UInt32.size text).map Nat.toUInt32

/-- Options of the command that solves for a pixel clock. -/
def Grammar.pll : Grammar where
  long := commonLong
  short := commonShort
  operand := some fun text => (clock? text).isSome

/-- Options of the command that shows a raster. -/
def Grammar.timing : Grammar where
  long := commonLong ++ [("cvt", .cvt)]
  short := commonShort
  operand := some fun _ => true

/-- Options of the command that sets a mode. -/
def Grammar.modeset : Grammar where
  long := commonLong ++ [("chip", .chip), ("crtc", .crtc), ("output", .output), ("bpp", .bpp),
    ("cvt", .cvt), ("fb-base", .base), ("vram-mib", .memory), ("i2c-chunk", .chunk),
    ("restore", .restore)]
  short := commonShort ++ [('o', .output)]
  operand := some fun _ => true

/-- The options that a command knows. -/
def grammar? (command : String) : Option Grammar :=
  if command = "chips" then some .chips
  else if command = "pll" then some .pll
  else if command = "timing" then some .timing
  else if command = "modeset" then some .modeset
  else none

/-- One argument read by itself. -/
inductive Reading where
  | positional
  | endOfOptions
  /-- Some flags and options, and perhaps one more that takes the next argument as its value. -/
  | items (items : List Item) (pending : Option Name)
  deriving DecidableEq, Repr

/-- The text in front of the first equals sign, and what follows it. -/
def splitEquals : List Char → List Char × Option (List Char)
  | [] => ([], none)
  | c :: rest =>
    if c = '=' then ([], some rest)
    else
      let (name, value) := splitEquals rest
      (c :: name, value)

/-- Read a long option. -/
def readLong (grammar : Grammar) (body : List Char) : Reading :=
  let (name, value) := splitEquals body
  match grammar.long.lookup (String.ofList name) with
  | none => .items [.unknown] none
  | some name =>
    match value with
    | none => if name.takesValue then .items [] (some name) else .items [.flag name] none
    | some value =>
      if name.takesValue then .items [.option name (String.ofList value)] none
      else .items [.unknown] none

/-- The value written behind a short option, without an equals sign in front. -/
def attached : List Char → String
  | '=' :: rest => String.ofList rest
  | body => String.ofList body

/-- Read short options written together, up to the first that is not known. -/
def readShort (grammar : Grammar) : List Char → List Item × Option Name
  | [] => ([], none)
  | c :: rest =>
    match grammar.short.lookup c with
    | none => ([.unknown], none)
    | some name =>
      if name.takesValue then
        if rest.isEmpty then ([], some name) else ([.option name (attached rest)], none)
      else
        let (items, pending) := readShort grammar rest
        (.flag name :: items, pending)

/-- Read one argument. -/
def readArgument (grammar : Grammar) (argument : String) : Reading :=
  match argument.toList with
  | ['-', '-'] => .endOfOptions
  | '-' :: '-' :: body => readLong grammar body
  | ['-'] => .positional
  | '-' :: body =>
    let (items, pending) := readShort grammar body
    .items items pending
  | _ => .positional

/-- Why reading ends before there is a job. -/
inductive Stop where
  /-- Help or the version was asked for. -/
  | help
  /-- The command line is not one. -/
  | usage
  deriving DecidableEq, Repr

/-- How often a flag or option is given. -/
def count (name : Name) (items : List Item) : Nat :=
  items.countP fun item =>
    match item with
    | .flag other | .option other _ => name = other
    | .positional _ | .unknown => false

/-- The positional arguments, in order. -/
def positionals (items : List Item) : List String :=
  items.filterMap fun item =>
    match item with
    | .positional value => some value
    | _ => none

/-- The values of an option, in order. -/
def values (name : Name) (items : List Item) : List String :=
  items.filterMap fun item =>
    match item with
    | .option other value => if name = other then some value else none
    | _ => none

/-- The item may stand behind those already seen. -/
def Item.fits (grammar : Grammar) (seen : List Item) : Item → Bool
  | .flag name => count name seen = 0
  | .option name value => name.admits value && (name = .output || count name seen = 0)
  | .positional value =>
    match grammar.operand with
    | some admits => admits value && (positionals seen).isEmpty
    | none => false
  | .unknown => false

/-- Take one more item. -/
def accept (grammar : Grammar) (seen : List Item) (item : Item) : Except Stop (List Item) :=
  if item = .flag .help ∨ item = .flag .version then .error .help
  else if item.fits grammar seen then .ok (seen ++ [item])
  else .error .usage

/-- Take more items, in order. -/
def acceptAll (grammar : Grammar) (seen items : List Item) : Except Stop (List Item) :=
  items.foldlM (accept grammar) seen

/-- Read the arguments of a command behind the items already seen; `pending` is an option that
still waits for its value. -/
def readItems (grammar : Grammar) :
    (seen : List Item) → (pending : Option Name) → List String → Except Stop (List Item)
  | seen, none, [] => .ok seen
  | _, some _, [] => .error .usage
  | seen, pending, argument :: rest =>
    match pending, readArgument grammar argument with
    | some name, .positional => do
      readItems grammar (← accept grammar seen (.option name argument)) none rest
    | some _, _ => .error .usage
    | none, .positional => do
      readItems grammar (← accept grammar seen (.positional argument)) none rest
    | none, .endOfOptions => acceptAll grammar seen (rest.map Item.positional)
    | none, .items items pending => do
      readItems grammar (← acceptAll grammar seen items) pending rest

/-- What to do for a mode set. -/
structure ModesetOptions where
  mode : String
  chip : String := "0x7140"
  crtc : UInt8 := 1
  outputs : List String := ["DAC1"]
  bpp : UInt8 := 32
  cvt : Bool := false
  base : String := "0x0"
  /-- Video memory in MiB. -/
  memory : UInt32 := 256
  chunk : Nat := 12
  restore : Bool := false
  deriving DecidableEq, Repr

/-- What the command line asks for. -/
inductive Job where
  | chips
  | pll (khz : UInt32)
  | timing (mode : String) (cvt : Bool)
  | modeset (options : ModesetOptions)
  deriving DecidableEq, Repr

/-- The number given for an option, or its default. Values that are no number were not
accepted. -/
def numberOr (name : Name) (items : List Item) (default : Nat) : Nat :=
  ((values name items).head?.bind name.number?).getD default

/-- The options of a mode set. -/
def modesetOptions (items : List Item) (mode : String) : ModesetOptions :=
  let outputs := values .output items
  { mode
    chip := (values .chip items).head?.getD "0x7140"
    crtc := (numberOr .crtc items 1).toUInt8
    outputs := if outputs.isEmpty then ["DAC1"] else outputs
    bpp := (numberOr .bpp items 32).toUInt8
    cvt := count .cvt items ≠ 0
    base := (values .base items).head?.getD "0x0"
    memory := (numberOr .memory items 256).toUInt32
    chunk := numberOr .chunk items 12
    restore := count .restore items ≠ 0 }

/-- The job of a command with its options and positional arguments. -/
def job? (command : String) (items : List Item) : Option Job :=
  match command, positionals items with
  | "chips", [] => some .chips
  | "pll", [khz] => (clock? khz).map Job.pll
  | "timing", [mode] => some (.timing mode (count .cvt items ≠ 0))
  | "modeset", [mode] => some (.modeset (modesetOptions items mode))
  | _, _ => none

/-- What comes of asking for help on what the arguments name: commands have no commands of their
own, so one name at most, and help is itself a command. -/
def helpOn : List String → Stop
  | [] => .help
  | [command] => if (grammar? command).isSome ∨ command = "help" then .help else .usage
  | _ => .usage

/-- What a command and its arguments come to. -/
def interpretCommand (command : String) (arguments : List String) : Except Stop Job :=
  match grammar? command with
  | none => .error (if command = "help" then helpOn arguments else .usage)
  | some grammar => do
    let items ← readItems grammar [] none arguments
    match job? command items with
    | some job => .ok job
    | none => .error .usage

/-- What a command line comes to; `seen` are the flags in front of the command so far. -/
def interpretFrom (seen : List Item) : List String → Except Stop Job
  | [] => .error .usage
  | argument :: rest =>
    match readArgument .top argument with
    | .positional => interpretCommand argument rest
    | .endOfOptions => .error .usage
    | .items items _ => do interpretFrom (← acceptAll .top seen items) rest

/-- What a command line comes to. -/
def interpret (arguments : List String) : Except Stop Job :=
  interpretFrom [] arguments

end Scanout.Command
