import OverSync.Library.Scan
import Mathlib.Data.Nat.Notation

/-! # Statements for Postgres

The statements are written for SQLite; the wrapper of the Postgres pool rewrites them before
each query. What the two databases make of the places for values is given as they document it,
for texts that have nothing else in them which either takes for more than its characters. -/

namespace OverSync.Coordinator.Postgres

open Library Library.Scan

variable {V : Type}

/-- The arguments of a statement: one object, or values that are none. -/
inductive Params (V : Type) where
  | named (fields : List (List Char × V))
  /-- `none` is `undefined` or `null`. -/
  | positional (values : List (Option V))
  deriving DecidableEq

/-- `params[0][name]` -/
def lookup (fields : List (List Char × V)) (name : List Char) : Option V :=
  (fields.find? fun field => field.1 = name).map Prod.snd

/-- `\w` -/
def isWord (c : Char) : Bool := c.isAlphanum || c = '_'

/-- `/CAST\(strftime\('%s','now'\) AS INTEGER\)/g` -/
def clockPattern : Pattern := .fixed 'C' "AST(strftime('%s','now') AS INTEGER)".toList

def postgresClock : List Char := "CAST(EXTRACT(EPOCH FROM NOW()) AS INTEGER)".toList

/-- `/:(\w+)/g` -/
def namePattern : Pattern := .run ':' isWord

/-- `/\?/g` -/
def markPattern : Pattern := .fixed '?' []

/-- `index.toString()` -/
def digits (index : ℕ) : List Char := Nat.toDigits 10 index

/-- `$${index++}` -/
def numbered (index : ℕ) (_ : List Char) : List Char := '$' :: digits index

/-- The statement with the clock of Postgres. -/
def withClock (sql : List Char) : List Char :=
  replaceAll clockPattern (fun _ _ => postgresClock) sql

def convertSqliteToPostgres (sql : List Char) (params : Params V) : List Char × Params V :=
  let converted := withClock sql
  let namedParams := founds (scan namePattern converted)
  let converted := replaceAll namePattern numbered converted
  let questionMarks := (founds (scan markPattern converted)).length
  if 0 < questionMarks then (replaceAll markPattern numbered converted, params)
  else
    let positionalParams := namedParams.map fun name =>
      match params with
      | .named fields => lookup fields name
      | .positional _ => none
    (converted, if 0 < positionalParams.length then .positional positionalParams else params)

/-! ## What the databases read -/

/-- A statement with its values in their places; `none` is `NULL`. -/
inductive Bound (V : Type) where
  | char (c : Char)
  | value (v : Option V)
  deriving DecidableEq

/-- What SQLite takes for a part of a name. -/
def isIdChar (c : Char) : Bool := isWord c || c = '$' || 128 ≤ c.toNat

def bindNames (fields : List (List Char × V)) (pieces : List Piece) : List (Bound V) :=
  pieces.map fun
    | .char c => .char c
    | .found name => .value (lookup fields name)

/-- The values in turn. -/
def bindMarks : List (Option V) → List Piece → List (Bound V)
  | _, [] => []
  | values, .char c :: pieces => .char c :: bindMarks values pieces
  | values, .found _ :: pieces => .value values.head?.join :: bindMarks values.tail pieces

def sqliteReading (sql : List Char) : Params V → List (Bound V)
  | .named fields => bindNames fields (read (.run ':' isIdChar) sql)
  | .positional values => bindMarks values (read markPattern sql)

/-- `$n` is the value at place `n`, counted from one. -/
def numberPattern : Pattern := .run '$' Char.isDigit

def numberOf (body : List Char) : ℕ := Nat.ofDigitChars 10 body 0

def bindNumbers (values : List (Option V)) (pieces : List Piece) : List (Bound V) :=
  pieces.map fun
    | .char c => .char c
    | .found body => .value values[numberOf body - 1]?.join

/-- Postgres wants as many values as the highest number says, and a list of them. -/
def postgresReading (sql : List Char) : Params V → Option (List (Bound V))
  | .named _ => none
  | .positional values =>
    let pieces := read numberPattern sql
    if ((founds pieces).map numberOf).foldr max 0 = values.length then
      some (bindNumbers values pieces)
    else none

/-! ## The statements that both read so -/

/-- Comments begin somewhere, or look as if they did. -/
def hasComment : List Char → Bool
  | '-' :: '-' :: _ => true
  | '/' :: '*' :: _ => true
  | _ :: cs => hasComment cs
  | [] => false

/-- Characters of other places, of names in quotes and of escapes. -/
def strangers : List Char := "$@#[\"\\\x60".toList

/-- ASCII texts without comments and strangers. -/
structure Plain (sql : List Char) : Prop where
  ascii : ∀ c ∈ sql, c.toNat < 128
  familiar : ∀ c ∈ sql, c ∉ strangers
  uncommented : hasComment sql = false

/-- Before a place, a word would take it in for Postgres, and a colon be another place. -/
def mayPrecede (c : Char) : Bool := !isWord c && c ≠ ':'

/-- Behind a place, a word would go on with it, and a bracket or a colon would for SQLite. -/
def mayFollow (c : Char) : Bool := !isWord c && c ≠ '(' && c ≠ ':'

/-- The places stand apart from the words around them. -/
def apart : List Piece → Bool
  | [] => true
  | .char c :: .found body :: pieces => mayPrecede c && apart (.found body :: pieces)
  | .found _ :: .char c :: pieces => mayFollow c && apart (.char c :: pieces)
  | _ :: pieces => apart pieces

/-- SQLite counts no further. -/
def maxPlaces : ℕ := 32766

/-- Places for values outside of quotes. -/
structure Placed (p : Pattern) (sql : List Char) : Prop where
  unquoted : p.sigil ∉ literals false sql
  apart : apart (scan p sql) = true
  count : (founds (scan p sql)).length ≤ maxPlaces

/-- Statements with arguments of their kind: either names, each a field of the object, or marks,
with a value for each. -/
inductive Fits (sql : List Char) : Params V → Prop where
  | named {fields} : Placed namePattern sql → founds (scan namePattern sql) ≠ [] → '?' ∉ sql →
      (∀ name ∈ founds (scan namePattern sql), (lookup fields name).isSome) →
      Fits sql (.named fields)
  | positional {values} : Placed markPattern sql → founds (scan namePattern sql) = [] →
      values.length = (founds (scan markPattern sql)).length → Fits sql (.positional values)

end OverSync.Coordinator.Postgres
