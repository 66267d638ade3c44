import Rulebook.Packing.Brotli.Block
import Rulebook.Packing.Brotli.Context
import Rulebook.Packing.Brotli.Word

/-!
# Commands

A command stands for some bytes, which follow it one by one, and a copy: of bytes that were made
before, or of a common word if the distance reaches beyond what was made.
-/

namespace Rulebook.Packing.Brotli

/-- The last four distances, the last one first. -/
structure Recent where
  first : Nat
  second : Nat
  third : Nat
  fourth : Nat

namespace Recent

/-- The distances before there is any. -/
def start : Recent :=
  ⟨4, 11, 15, 16⟩

/-- One more distance. -/
def push (r : Recent) (distance : Nat) : Recent :=
  ⟨distance, r.first, r.second, r.third⟩

/-- The distance that is one of the last ones or close to it, unless it is not positive. -/
def distance? (r : Recent) (symbol : Nat) : Option Nat :=
  match symbol with
  | 0 => some r.first
  | 1 => some r.second
  | 2 => some r.third
  | 3 => some r.fourth
  | n =>
    let close := if n < 10 then r.first else r.second
    let apart := (n - 4) % 6 / 2 + 1
    let distance := if n % 2 = 0 then close - apart else close + apart
    if distance = 0 then none else some distance

end Recent

/-- How the symbols of a block of data are coded: the context of bytes by type of block, the maps
for bytes and distances, the codes of all three kinds of symbols, and how distances are split. -/
structure Coding where
  modes : Array ContextMode
  literalMap : Array Nat
  distanceMap : Array Nat
  literals : Array PrefixCode
  commands : Array PrefixCode
  distances : Array PrefixCode
  direct : Nat
  lowBits : Nat
  reach : Nat

/-- Where the three kinds of blocks are, and the last distances. -/
structure Course where
  literals : Blocks
  commands : Blocks
  distances : Blocks
  recent : Recent

/-- The numbers of bytes that follow a command. -/
def insertLengths : List Span :=
  [(0, 0), (1, 0), (2, 0), (3, 0), (4, 0), (5, 0), (6, 1), (8, 1), (10, 2), (14, 2), (18, 3),
    (26, 3), (34, 4), (50, 4), (66, 5), (98, 5), (130, 6), (194, 7), (322, 8), (578, 9),
    (1090, 10), (2114, 12), (6210, 14), (22594, 24)]

/-- The lengths of copies. -/
def copyLengths : List Span :=
  [(2, 0), (3, 0), (4, 0), (5, 0), (6, 0), (7, 0), (8, 0), (9, 0), (10, 1), (12, 1), (14, 2),
    (18, 2), (22, 3), (30, 3), (38, 4), (54, 4), (70, 5), (102, 5), (134, 6), (198, 7), (326, 8),
    (582, 9), (1094, 10), (2118, 24)]

/-- Which eighths of both tables the commands use, 64 commands each. -/
def commandRows : List (Nat × Nat) :=
  [(0, 0), (0, 1), (0, 0), (0, 1), (1, 0), (1, 1), (0, 2), (2, 0), (1, 2), (2, 1), (2, 2)]

/-- A command: how many bytes follow, how many are copied, and whether from the last distance. -/
structure Command where
  insert : Nat
  copy : Nat
  isAgain : Bool

/-- The command of a symbol. -/
def commandOf (symbol : Nat) : Unpack Command := do
  match commandRows[symbol / 64]? with
  | some (insertRow, copyRow) =>
    let insert ← valueOf insertLengths (insertRow * 8 + symbol / 8 % 8)
    let copy ← valueOf copyLengths (copyRow * 8 + symbol % 8)
    return ⟨insert, copy, symbol < 128⟩
  | none => throw .wrong

/-- The next bytes, as many as wanted. -/
def literals (c : Coding) : Nat → Blocks → Unpack Blocks
  | 0, blocks => return blocks
  | count + 1, blocks => do
    let blocks ← blocks.next
    let mode := c.modes[blocks.current]?.getD .lowBits
    let context := mode.context (← Unpack.ago 1) (← Unpack.ago 2)
    let place := c.literalMap[blocks.current * 64 + context]?.getD 0
    let n ← (c.literals[place]?.getD .empty).read
    Unpack.emit n.toUInt8
    literals c count blocks

/-- The distance of a symbol above those of the last distances. The first ones are the distances
themselves. The others are split: their lowest bits and their size are in the symbol, and what is
between is added. -/
def farDistance (c : Coding) (n : Nat) : Unpack Nat := do
  if n < c.direct then return n + 1
  else
    let n := n - c.direct
    let scale := Nat.pow 2 c.lowBits
    let high := n / scale
    let extra := high / 2 + 1
    let least := (2 + high % 2) * Nat.pow 2 extra - 4
    return (least + (← Unpack.number extra)) * scale + n % scale + c.direct + 1

/-- The distance of a symbol, and the last distances after it. -/
def distanceOf (c : Coding) (recent : Recent) (symbol : Nat) : Unpack (Nat × Recent) := do
  if symbol < 16 then
    match recent.distance? symbol with
    | some d => return (d, if symbol = 0 then recent else recent.push d)
    | none => throw .wrong
  else
    let d ← farDistance c (symbol - 16)
    return (d, recent.push d)

/-- The next distance, for a copy of some length, and where that leads. -/
def distance (c : Coding) (s : Course) (copy : Nat) : Unpack (Nat × Course) := do
  let blocks ← s.distances.next
  let place := c.distanceMap[blocks.current * 4 + (min copy 5 - 2)]?.getD 0
  let symbol ← (c.distances[place]?.getD .empty).read
  let (d, recent) ← distanceOf c s.recent symbol
  return (d, { s with distances := blocks, recent })

/-- A copy, which makes at most as many bytes as are left. It returns how many are left then. A
common word does not count among the last distances. -/
def copy (c : Coding) (s : Course) (command : Command) (left : Nat) : Unpack (Course × Nat) := do
  let (d, next) ← if command.isAgain then pure (s.recent.first, s) else distance c s command.copy
  let reach := min (← Unpack.made) c.reach
  if d ≤ reach then
    if left < command.copy then throw .wrong
    Unpack.repeatFrom d command.copy
    return (next, left - command.copy)
  else
    match word? command.copy (d - reach - 1) with
    | some word =>
      if left < word.length then throw .wrong
      Unpack.emitAll word
      return ({ next with recent := s.recent }, left - word.length)
    | none => throw .wrong

/-- Commands until no bytes are left. The first number bounds the steps. -/
def commands (c : Coding) : Nat → Course → Nat → Unpack Recent
  | 0, _, _ => throw .wrong
  | fuel + 1, s, left => do
    if left = 0 then return s.recent
    else
      let blocks ← s.commands.next
      let command ← commandOf (← (c.commands[blocks.current]?.getD .empty).read)
      if left < command.insert then throw .wrong
      let literals ← literals c command.insert s.literals
      let s := { s with commands := blocks, literals }
      let left := left - command.insert
      if left = 0 then return s.recent
      else
        let (s, left) ← copy c s command left
        commands c fuel s left

end Rulebook.Packing.Brotli
