/-!
# Arguments

The arguments of a command are options, which start with a hyphen, and operands. A command says
which ones it takes (`Grammar`), and `Grammar.scan` tells the arguments apart: what occurs, in its
order, and how the scan ended. A value follows its option as the next argument, or after an equals
sign in the same one. Everything after `--` is an operand.

What an option's value means is not asked here.
-/

namespace LoraGateway.CommandLine

/-- What an option takes. -/
inductive Arity
  /-- Nothing. -/
  | flag
  /-- A value that does not start with a hyphen. -/
  | value
  /-- Any value. -/
  | anyValue
  deriving DecidableEq, Repr

/-- What a command takes. -/
structure Grammar where
  /-- The options by their long names. -/
  options : List (String × Arity)
  /-- How many operands it takes. -/
  operands : Nat := 0
  /-- The commands it is divided into. -/
  commands : List String := []
  deriving Repr

/-- Something that occurs among the arguments. -/
inductive Occurrence
  | flag (name : String)
  | value (name text : String)
  /-- An option without its value. -/
  | valueless (name : String)
  | operand (text : String)
  deriving DecidableEq, Repr

/-- How the scan of arguments ended. -/
inductive Ending
  /-- With the last argument. -/
  | complete
  /-- With the name of a command, which the remaining arguments belong to. -/
  | command (name : String) (rest : List String)
  /-- With an argument that does not belong there. The argument right before it is left unread if
      it is an operand, or the value of an option without an equals sign. -/
  | unexpected (argument : String) (unread : Option Occurrence)
  deriving DecidableEq, Repr

/-- An argument by its form. -/
inductive Form
  /-- The mark after which all arguments are operands. -/
  | terminator
  /-- A long option, with what follows its equals sign. -/
  | long (name : String) (attached : Option String)
  /-- Short options. -/
  | short (letters : List Char)
  | plain
  deriving DecidableEq, Repr

/-- The form of an argument. A single hyphen is a plain one. -/
def formOf (argument : String) : Form :=
  match argument.toList with
  | '-' :: '-' :: [] => .terminator
  | '-' :: '-' :: rest =>
    match rest.dropWhile (· != '=') with
    | [] => .long (String.ofList rest) none
    | _ :: attached =>
      .long (String.ofList (rest.takeWhile (· != '='))) (some (String.ofList attached))
  | '-' :: c :: rest => .short (c :: rest)
  | _ => .plain

namespace Grammar

/-- The long name of a short option. -/
def longName? (g : Grammar) (c : Char) : Option String :=
  let name? : Option String := match c with
    | 'v' => some "verbose"
    | 'V' => some "version"
    | 'h' => some "help"
    | _ => none
  name?.filter fun name => (g.options.lookup name).isSome

/-- The flags that short options stand for, up to the first that the command does not take. -/
def shortFlags (g : Grammar) : List Char → List Occurrence × Bool
  | [] => ([], true)
  | c :: rest =>
    match g.longName? c with
    | some name =>
      let (flags, ok) := g.shortFlags rest
      (.flag name :: flags, ok)
    | none => ([], false)

/-- Puts an argument in front of what follows, which decides whether it is read: it is left unread
    if the very next argument does not belong there. One that is left unread has itself been
    expected, so what stands in front of it is read. -/
def await (o : Occurrence) : List Occurrence × Ending → List Occurrence × Ending
  | ([], .unexpected a none) => ([], .unexpected a (some o))
  | (os, e) => (o :: os, e)

/-- Scans arguments of which only `room` more may be operands, and all are. -/
def scanOperands : (room : Nat) → List String → List Occurrence × Ending
  | _, [] => ([], .complete)
  | 0, a :: _ => ([], .unexpected a none)
  | room + 1, a :: rest => await (.operand a) (scanOperands room rest)

/-- Scans arguments. If `pending` is an option, its value is due; `room` more may be operands. -/
def scan (g : Grammar) (pending : Option (String × Arity)) (room : Nat) :
    List String → List Occurrence × Ending
  | [] =>
    match pending with
    | none => ([], .complete)
    | some (name, _) => ([.valueless name], .complete)
  | a :: rest =>
    match pending with
    | some (name, arity) =>
      if arity = .anyValue ∨ formOf a = .plain then
        await (.value name a) (g.scan none room rest)
      else ([.valueless name], .unexpected a none)
    | none =>
      match formOf a with
      | .terminator => scanOperands room rest
      | .long name attached =>
        match g.options.lookup name, attached with
        | none, _ => ([], .unexpected a none)
        | some .flag, some _ => ([], .unexpected a none)
        | some .flag, none =>
          let (os, e) := g.scan none room rest
          (.flag name :: os, e)
        | some _, some text =>
          let (os, e) := g.scan none room rest
          (.value name text :: os, e)
        | some arity, none => g.scan (some (name, arity)) room rest
      | .short letters =>
        match g.shortFlags letters with
        | (flags, true) =>
          let (os, e) := g.scan none room rest
          (flags ++ os, e)
        | (flags, false) => (flags, .unexpected a none)
      | .plain =>
        if a ∈ g.commands then ([], .command a rest)
        else
          match room with
          | 0 => ([], .unexpected a none)
          | room + 1 => await (.operand a) (g.scan none room rest)

end Grammar

end LoraGateway.CommandLine
