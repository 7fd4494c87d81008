import SeriesBench.StringMap
import SeriesBench.Text.Alphanumeric
import SeriesBench.Text.Split
import SeriesBench.Text.Utf8

set_option autoImplicit false

namespace SeriesBench.CommandLine
open SeriesBench.Text

inductive EnvFault where
  | badLine (line : List Char) (index : Nat)
  | notText
  | nulInValue
deriving DecidableEq, Repr

/-- The program comes to grief on a NUL character without a text of its own. -/
def EnvFault.message? : EnvFault → Option String
  | .badLine line index =>
    some ("Error parsing line: '" ++ String.ofList line ++ "', error at line index: "
      ++ toString index)
  | .notText => some "stream did not contain valid UTF-8"
  | .nulInValue => none

namespace EnvFile

inductive LineState where
  | complete
  | blank
  | escape
  | strong
  | strongEscape
  | weak
  | weakEscape
  | comment
deriving DecidableEq, Repr

def LineState.next : LineState → Char → LineState
  | .blank, '#' => .comment
  | .blank, '\\' => .escape
  | .blank, '"' => .weak
  | .blank, '\'' => .strong
  | .blank, _ => .complete
  | .escape, _ => .complete
  | .complete, '\\' => .escape
  | .complete, '"' => .weak
  | .complete, '\'' => .strong
  | .complete, c => if isBlank c && c != '\n' && c != '\r' then .blank else .complete
  | .weak, '\\' => .weakEscape
  | .weak, '"' => .complete
  | .weak, _ => .weak
  | .weakEscape, _ => .weak
  | .strong, '\\' => .strongEscape
  | .strong, '\'' => .complete
  | .strong, _ => .strong
  | .strongEscape, _ => .strong
  | .comment, _ => .comment

def scanLine : LineState → List Char → List Char → LineState × List Char
  | state, [], kept => (state, kept)
  | state, c :: cs, kept =>
    match state.next c with
    | .comment => (.comment, kept)
    | state => scanLine state cs (c :: kept)

def linesWithEnds : List Char → List Char → List (List Char) → List (List Char)
  | [], [], done => done.reverse
  | [], line, done => (line.reverse :: done).reverse
  | '\n' :: cs, line, done => linesWithEnds cs [] (('\n' :: line).reverse :: done)
  | c :: cs, line, done => linesWithEnds cs (c :: line) done

def dropEnd : List Char → List Char
  | '\n' :: '\r' :: reversed => reversed
  | '\n' :: reversed => reversed
  | reversed => reversed

/-- Joins lines for as long as a quote, an escape or blank space at the end is open; `pending` is
what has been joined so far, in reverse. -/
def joinLines : List (List Char) → List Char → LineState → List (Except EnvFault (List Char))
  | [], pending, state =>
    if state = .complete then [] else [.error (.badLine pending.reverse (byteLength pending))]
  | line :: rest, pending, state =>
    if (trimLeft (pending.reverse ++ line)).head? = some '#' then
      .ok [] :: joinLines rest [] .complete
    else match scanLine state line pending with
      | (.complete, all) => .ok (dropEnd all).reverse :: joinLines rest [] .complete
      | (.comment, all) => .ok all.reverse :: joinLines rest [] .complete
      | (state, all) => joinLines rest all state

structure Cursor where
  position : Nat
  rest : List Char

namespace Cursor

def skipBlank (c : Cursor) : Cursor :=
  ⟨c.position + byteLength (c.rest.takeWhile isBlank), trimLeft c.rest⟩

def isKeyStart (c : Char) : Bool := c.isAlpha || c == '_'

def isKeyChar (c : Char) : Bool := c.isAlphanum || c == '_' || c == '.'

def key? (c : Cursor) : Option (List Char × Cursor) :=
  if c.rest.head?.any isKeyStart then
    let key := c.rest.takeWhile isKeyChar
    some (key, ⟨c.position + key.length, c.rest.dropWhile isKeyChar⟩)
  else none

def equals? (c : Cursor) : Option Cursor :=
  match c.rest with
  | '=' :: rest => some ⟨c.position + 1, rest⟩
  | _ => none

end Cursor

inductive ValueMode where
  | plain
  | escaped
  | strong
  | name (reversed : List Char)
  | braced (reversed : List Char)
  | ended
deriving DecidableEq, Repr

/-- The value of the variable whose name is given in reverse, or nothing. A variable is found by the
front of `KEY=value`, so a name may go on with an equals sign and the front of the value, up to
another equals sign. -/
def lookup (env : StringMap String) (reversed : List Char) : List Char :=
  let name := reversed.reverse
  let (key, front) := (splitOnce '=' name).getD (name, [])
  let value := ((env.get? (String.ofList key)).getD "").toList
  if key = name then value
  else if (front ++ ['=']).isPrefixOf value then value.drop (front.length + 1)
  else []

/-- Reads a value on from the `index`-th character of `input`, where `weak` says whether a double
quote is open and `done` is what the value has so far, in reverse. -/
def readValue (env : StringMap String) (input : List Char) :
    List Char → Nat → ValueMode → Bool → List Char → Except EnvFault (List Char)
  | [], _, mode, weak, done =>
    let unclosed := EnvFault.badLine input (byteLength input - 1)
    if weak then .error unclosed
    else match mode with
      | .strong => .error unclosed
      | .braced _ => .error unclosed
      | .name n => .ok ((lookup env n).reverse ++ done).reverse
      | _ => .ok done.reverse
  | c :: cs, index, mode, weak, done =>
    let go := readValue env input cs (index + 1)
    let fault := EnvFault.badLine input index
    match mode with
    | .ended =>
      if c = ' ' ∨ c = '\t' then go .ended weak done
      else if c = '#' then .ok done.reverse
      else .error fault
    | .escaped =>
      if c ∈ ['\\', '\'', '"', '$', ' '] then go .plain weak (c :: done)
      else if c = 'n' then go .plain weak ('\n' :: done)
      else .error fault
    | .strong => if c = '\'' then go .plain weak done else go .strong weak (c :: done)
    | .name n =>
      if isAlphanumeric c then go (.name (c :: n)) weak done
      else if c = '\x7b' ∧ n = [] then go (.braced []) weak done
      else
        let done := (lookup env n).reverse ++ done
        if c = '$' then go (.name []) weak done else go .plain weak (c :: done)
    | .braced n =>
      if c = '\x7d' then go .plain weak ((lookup env n).reverse ++ done)
      else go (.braced (c :: n)) weak done
    | .plain =>
      if c = '$' then go (.name []) weak done
      else if c = '\\' then go .escaped weak done
      else if c = '"' then go .plain (!weak) done
      else if weak then go .plain weak (c :: done)
      else if c = '\'' then go .strong weak done
      else if c = ' ' ∨ c = '\t' then go .ended weak done
      else go .plain weak (c :: done)

def readLine (env : StringMap String) (line : List Char) :
    Except EnvFault (Option (String × String)) := do
  let start := Cursor.skipBlank ⟨0, trimRight line⟩
  if start.rest.isEmpty ∨ start.rest.head? = some '#' then return none
  let (key, c) ← keyAt start
  let c := c.skipBlank
  let (key, c) ←
    if key = "export".toList ∧ c.equals?.isNone then do
      let (key, c) ← keyAt c
      pure (key, c.skipBlank)
    else pure (key, c)
  let c := (← equalsAt c).skipBlank
  let value ←
    if c.rest.isEmpty ∨ c.rest.head? = some '#' then pure []
    else readValue env c.rest c.rest 0 .plain false []
  return some (String.ofList key, String.ofList value)
where
  keyAt (c : Cursor) : Except EnvFault (List Char × Cursor) :=
    match c.key? with
    | some r => .ok r
    | none => .error (.badLine line c.position)
  equalsAt (c : Cursor) : Except EnvFault Cursor :=
    match c.equals? with
    | some c => .ok c
    | none => .error (.badLine line c.position)

def setAll : List (Except EnvFault (List Char)) → StringMap String →
    Except EnvFault (StringMap String)
  | [], env => .ok env
  | .error e :: _, _ => .error e
  | .ok line :: rest, env =>
    match readLine env line with
    | .error e => .error e
    | .ok none => setAll rest env
    | .ok (some (key, value)) =>
      if env.contains key then setAll rest env
      else if value.contains '\x00' then .error .nulInValue
      else setAll rest (env.insert key value)

def load (bytes : List UInt8) (env : StringMap String) : Except EnvFault (StringMap String) :=
  match ofUtf8? bytes with
  | none => .error .notText
  | some s =>
    let s := if s.head? = some '\uFEFF' then s.drop 1 else s
    setAll (joinLines (linesWithEnds s [] []) [] .complete) env

/-- The keys after dollar signs, with a brace and without. -/
def namesIn : List Char → List String
  | [] => []
  | '$' :: cs =>
    String.ofList (cs.takeWhile isAlphanumeric)
      :: String.ofList ((cs.drop 1).takeWhile fun c => c != '\x7d' && c != '=') :: namesIn cs
  | _ :: cs => namesIn cs

def mentioned (bytes : List UInt8) : List String :=
  match ofUtf8? bytes with
  | some s => namesIn s
  | none => []

end EnvFile
end SeriesBench.CommandLine
