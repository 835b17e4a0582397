import BrainHost.Script.Numeric
import BrainHost.Text.Casing

/-! # Regular expressions

Reads the source of a regular expression into a tree and matches the tree against a string by
trying its alternatives in order. -/

namespace BrainHost.Script

/-- A member of a class of characters. -/
inductive ClassItem
  | range (first last : Nat)
  | digit (negated : Bool)
  | word (negated : Bool)
  | blank (negated : Bool)
  deriving Inhabited

/-- A regular expression. -/
inductive Pattern
  | empty
  | char (n : Nat)
  | any
  | oneOf (negated : Bool) (items : List ClassItem)
  | sequence (first second : Pattern)
  | either (first second : Pattern)
  | group (index : Nat) (p : Pattern)
  | back (index : Nat)
  | backNamed (name : Str)
  | start
  | stop
  | boundary (negated : Bool)
  | look (ahead negated : Bool) (p : Pattern)
  /-- A repetition; the groups inside, from `firstGroup` to before `lastGroup`, start anew in each round. -/
  | many (p : Pattern) (least : Nat) (most : Option Nat) (greedy : Bool) (firstGroup lastGroup : Nat)
  deriving Inhabited

/-- A regular expression with the names of its groups. -/
structure Expression where
  pattern : Pattern
  groups : Nat
  names : List (Str × Nat)
  deriving Inhabited

/-! ## Flags -/

/-- The flags of regular expressions, in the order in which they are shown. -/
def regexpFlags : List (Char × String) :=
  [('d', "hasIndices"), ('g', "global"), ('i', "ignoreCase"), ('m', "multiline"), ('s', "dotAll"),
    ('u', "unicode"), ('y', "sticky")]

def hasFlag (flags : Str) (c : Char) : Bool := flags.units.contains (unitOf c)

/-- Whether flags are known and none occurs twice. -/
def validFlags (flags : Str) : Bool :=
  flags.units.all (fun u => regexpFlags.any fun p => isUnit u p.1)
    && flags.units.toList.eraseDups.length = flags.size

/-! ## Reading -/

namespace Pattern

/-- What is known while a pattern is read: the units that are left and the groups so far. -/
structure Reader where
  rest : List UInt16
  groups : Nat := 1
  names : List (Str × Nat) := []
  unicode : Bool

/-- An action that reads a part of a pattern. -/
abbrev Read := StateT Reader (Except String)

def peek? : Read (Option UInt16) := do pure (← get).rest.head?

def skip (count : Nat) : Read Unit := modify fun r => { r with rest := r.rest.drop count }

/-- Takes a text if it stands here. -/
def take (text : String) : Read Bool := do
  let us := (Str.ofString text).units.toList
  if us.isPrefixOf (← get).rest then
    skip us.length
    pure true
  else pure false

/-- Takes the next character: a unit, or a pair of surrogates in Unicode mode. -/
def character : Read Nat := do
  let r ← get
  match r.rest with
  | a :: b :: _ =>
    if r.unicode && isLead a && isTrail b then
      skip 2
      pure (joinSurrogates a b)
    else
      skip 1
      pure a.toNat
  | [a] =>
    skip 1
    pure a.toNat
  | [] => throw "unexpected end"

def number? : Read (Option Nat) := do
  let ds := (← get).rest.takeWhile (isDigitOf 10)
  if ds.isEmpty then pure none
  else
    skip ds.length
    pure (some (numberOf 10 ds))

def hexDigits? (count : Nat) : Read (Option Nat) := do
  let ds := (← get).rest.take count
  if ds.length = count && ds.all (isDigitOf 16) then
    skip count
    pure (some (numberOf 16 ds))
  else pure none

/-- Takes the name of a group up to its closing bracket. -/
def groupName : Read Str := do
  let r ← get
  let name := r.rest.takeWhile fun u => !isUnit u '>'
  if name.isEmpty || name.length = r.rest.length then throw "invalid group name"
  else
    skip (name.length + 1)
    pure ⟨name.toArray⟩

/-- The class of an escape, if it stands for one. -/
def classOf? (u : UInt16) : Option ClassItem :=
  if isUnit u 'd' then some (.digit false)
  else if isUnit u 'D' then some (.digit true)
  else if isUnit u 'w' then some (.word false)
  else if isUnit u 'W' then some (.word true)
  else if isUnit u 's' then some (.blank false)
  else if isUnit u 'S' then some (.blank true)
  else none

/-- Takes a character of an escape after its backslash. -/
def escapedCharacter : Read Nat := do
  match ← peek? with
  | none => throw "unexpected end"
  | some u => do
    let simple := [('t', 9), ('n', 10), ('v', 11), ('f', 12), ('r', 13), ('0', 0)].find? fun p => isUnit u p.1
    match simple with
    | some (_, n) => do
      skip 1
      pure n
    | none =>
      if isUnit u 'x' then
        skip 1
        pure ((← hexDigits? 2).getD 'x'.toNat)
      else if isUnit u 'u' then
        skip 1
        if (← get).unicode && (← take "\x7b") then
          let ds := (← get).rest.takeWhile (isDigitOf 16)
          skip (ds.length + 1)
          pure (numberOf 16 ds)
        else
          match ← hexDigits? 4 with
          | none => pure 'u'.toNat
          | some n =>
            let r ← get
            if r.unicode && isLead n.toUInt16 && (← take "\\u") then
              match ← hexDigits? 4 with
              | some m => pure (if isTrail m.toUInt16 then joinSurrogates n.toUInt16 m.toUInt16 else m)
              | none => pure n
            else pure n
      else if isUnit u 'c' then
        skip 1
        match ← peek? with
        | some v => do
          skip 1
          pure (v.toNat % 32)
        | none => pure 'c'.toNat
      else character

def classAtom : Read ClassItem := do
  if ← take "\\" then
    match ← peek? with
    | some u =>
      match classOf? u with
      | some item => do
        skip 1
        pure item
      | none =>
        if isUnit u 'b' then
          skip 1
          pure (.range 8 8)
        else do
          let n ← escapedCharacter
          pure (.range n n)
    | none => throw "unexpected end"
  else do
    let n ← character
    pure (.range n n)

/-- Takes the members of a class up to its closing bracket. -/
def classItems : Nat → List ClassItem → Read (List ClassItem)
  | 0, _ => throw "unexpected end"
  | fuel + 1, acc => do
    if ← take "]" then pure acc
    else
      let item ← classAtom
      let r ← get
      let isRange := match r.rest with
        | d :: e :: _ => isUnit d '-' && !isUnit e ']'
        | _ => false
      if isRange then
        skip 1
        let last ← classAtom
        match item, last with
        | .range a _, .range b _ =>
          if b < a then throw "invalid class range" else classItems fuel (.range a b :: acc)
        | item, last => classItems fuel (last :: .range '-'.toNat '-'.toNat :: item :: acc)
      else classItems fuel (item :: acc)

/-- Takes the counts of a repetition, if there are some. -/
def counts? : Read (Option (Nat × Option Nat)) := do
  if ← take "*" then pure (some (0, none))
  else if ← take "+" then pure (some (1, none))
  else if ← take "?" then pure (some (0, some 1))
  else
    let before ← get
    if ← take "\x7b" then
      let least ← number?
      match least with
      | none => do
        set before
        pure none
      | some least => do
        let most ←
          if ← take "," then number?
          else pure (some least)
        if ← take "\x7d" then
          match most with
          | some m => if m < least then throw "invalid repetition count" else pure (some (least, most))
          | none => pure (some (least, none))
        else do
          set before
          pure none
    else pure none

mutual

def alternatives : Nat → Read Pattern
  | 0 => throw "stack overflow"
  | fuel + 1 => do
    let first ← terms fuel .empty
    if ← take "|" then do pure (.either first (← alternatives fuel)) else pure first

/-- Reads terms one after the other. -/
def terms : Nat → Pattern → Read Pattern
  | 0, _ => throw "stack overflow"
  | fuel + 1, acc => do
    match ← peek? with
    | none => pure acc
    | some u =>
      if isUnit u '|' || isUnit u ')' then pure acc
      else
        let firstGroup := (← get).groups
        let p ← term fuel
        let lastGroup := (← get).groups
        match ← counts? with
        | some (least, most) => do
          let greedy := !(← take "?")
          terms fuel (.sequence acc (.many p least most greedy firstGroup lastGroup))
        | none => terms fuel (.sequence acc p)

def term : Nat → Read Pattern
  | 0 => throw "stack overflow"
  | fuel + 1 => do
    if ← take "^" then pure .start
    else if ← take "$" then pure .stop
    else if ← take "." then pure .any
    else if ← take "(?:" then closed fuel id
    else if ← take "(?=" then closed fuel (.look true false)
    else if ← take "(?!" then closed fuel (.look true true)
    else if ← take "(?<=" then closed fuel (.look false false)
    else if ← take "(?<!" then closed fuel (.look false true)
    else if ← take "(?<" then do
      let name ← groupName
      let index := (← get).groups
      if (← get).names.any fun p => p.1 == name then throw "duplicate group name"
      else
        modify fun r => { r with groups := index + 1, names := r.names ++ [(name, index)] }
        closed fuel (.group index)
    else if ← take "(" then do
      let index := (← get).groups
      modify fun r => { r with groups := index + 1 }
      closed fuel (.group index)
    else if ← take "[" then do
      let negated ← take "^"
      let items ← classItems (Nat.pow 2 40) []
      pure (.oneOf negated items.reverse)
    else if ← take "\\" then escape
    else
      match ← peek? with
      | some u =>
        if isUnit u '*' || isUnit u '+' || isUnit u '?' then throw "nothing to repeat"
        else do pure (.char (← character))
      | none => throw "unexpected end"

def closed : Nat → (Pattern → Pattern) → Read Pattern
  | 0, _ => throw "stack overflow"
  | fuel + 1, f => do
    let p ← alternatives fuel
    if ← take ")" then pure (f p) else throw "expecting ')'"

/-- Reads an escape after its backslash. -/
def escape : Read Pattern := do
  match ← peek? with
  | none => throw "unexpected end"
  | some u =>
    match classOf? u with
    | some item => do
      skip 1
      pure (.oneOf false [item])
    | none =>
      if isUnit u 'b' then
        skip 1
        pure (.boundary false)
      else if isUnit u 'B' then
        skip 1
        pure (.boundary true)
      else if isUnit u 'k' && (← get).rest.length > 1 && isUnit ((← get).rest.getD 1 0) '<' then
        skip 2
        pure (.backNamed (← groupName))
      else if isDigitOf 10 u && !isUnit u '0' then
        match ← number? with
        | some n => pure (.back n)
        | none => throw "unexpected end"
      else do pure (.char (← escapedCharacter))

end

end Pattern

def Expression.read? (source : Str) (unicode : Bool) : Except String Expression := do
  let (p, r) ← Pattern.alternatives (4 * source.size + 16) { rest := source.units.toList, unicode }
  if r.rest.isEmpty then pure { pattern := p, groups := r.groups, names := r.names }
  else throw "extraneous characters at the end"

/-! ## Matching -/

structure Matching where
  text : Array UInt16
  ignoreCase : Bool
  multiline : Bool
  dotAll : Bool
  unicode : Bool
  names : List (Str × Nat)

/-- How far a match is: the position and the groups. -/
structure Progression where
  position : Nat
  groups : Array (Option (Nat × Nat))

namespace Matching

variable (m : Matching)

/-- The character at a position, with its width. -/
def characterAt (i : Nat) : Option (Nat × Nat) :=
  match m.text[i]? with
  | none => none
  | some a =>
    if m.unicode && isLead a then
      match m.text[i + 1]? with
      | some b => if isTrail b then some (joinSurrogates a b, 2) else some (a.toNat, 1)
      | none => some (a.toNat, 1)
    else some (a.toNat, 1)

/-- A character without its case, where case does not count. -/
def folded (n : Nat) : Nat :=
  if m.ignoreCase then
    match Text.upperPoints n with
    | [u] => u
    | _ => n
  else n

def isWordPoint (n : Nat) : Bool := n < 0x80 && ((Char.ofNat n).isAlphanum || n = 0x5F)

def isLineEnd (n : Nat) : Bool := n = 0x0A || n = 0x0D || n = 0x2028 || n = 0x2029

def holds (n : Nat) : ClassItem → Bool
  | .range a b =>
    (a ≤ n && n ≤ b)
      || (m.ignoreCase && ((Text.upperPoints n ++ Text.lowerPoints n).any fun k => a ≤ k && k ≤ b))
  | .digit negated => (0x30 ≤ n && n ≤ 0x39) != negated
  | .word negated => isWordPoint n != negated
  | .blank negated => (n < 0x10000 && Str.isSpace n.toUInt16) != negated

/-- Whether a word starts or ends at a position. -/
def atBoundary (i : Nat) : Bool :=
  let isWord (u : Option UInt16) : Bool := (u.map fun u => isWordPoint u.toNat).getD false
  isWord (if i = 0 then none else m.text[i - 1]?) != isWord m.text[i]?

/-- Takes one character that a test accepts, forward or backward. -/
def step (forward : Bool) (test : Nat → Bool) (s : Progression) : Option Progression :=
  if forward then
    match m.characterAt s.position with
    | some (n, width) => if test n then some { s with position := s.position + width } else none
    | none => none
  else if s.position = 0 then none
  else
    let width := match m.characterAt (s.position - 2) with
      | some (_, 2) => if 2 ≤ s.position then 2 else 1
      | _ => 1
    match m.characterAt (s.position - width) with
    | some (n, _) => if test n then some { s with position := s.position - width } else none
    | none => none

/-- Takes the text of a group once more. -/
def again (forward : Bool) (index : Nat) (s : Progression) : Option Progression :=
  match (s.groups[index]?).getD none with
  | none => some s
  | some (a, b) =>
    let count := b - a
    let start := if forward then s.position else s.position - count
    let same := (List.range count).all fun k =>
      (m.text[a + k]?.map fun u => m.folded u.toNat) == (m.text[start + k]?.map fun u => m.folded u.toNat)
    if !same || (!forward && s.position < count) then none
    else some { s with position := if forward then s.position + count else start }

def run (forward : Bool) : Pattern → Progression → (Progression → Option Progression) → Option Progression
  | .empty, s, next => next s
  | .char n, s, next => (m.step forward (fun k => m.folded k == m.folded n) s).bind next
  | .any, s, next => (m.step forward (fun k => m.dotAll || !isLineEnd k) s).bind next
  | .oneOf negated items, s, next => (m.step forward (fun k => items.any (m.holds k) != negated) s).bind next
  | .sequence p q, s, next =>
    if forward then run forward p s fun s => run forward q s next
    else run forward q s fun s => run forward p s next
  | .either p q, s, next =>
    match run forward p s next with
    | some s => some s
    | none => run forward q s next
  | .group index p, s, next =>
    run forward p s fun t =>
      let span := if forward then (s.position, t.position) else (t.position, s.position)
      next { t with groups := t.groups.set! index (some span) }
  | .back index, s, next => (m.again forward index s).bind next
  | .backNamed name, s, next =>
    match m.names.find? fun p => p.1 == name with
    | some (_, index) => (m.again forward index s).bind next
    | none => none
  | .start, s, next =>
    let before := if s.position = 0 then none else m.text[s.position - 1]?
    if s.position = 0 || (m.multiline && (before.map fun u => isLineEnd u.toNat).getD false) then next s else none
  | .stop, s, next =>
    let after := m.text[s.position]?
    if after.isNone || (m.multiline && (after.map fun u => isLineEnd u.toNat).getD false) then next s else none
  | .boundary negated, s, next => if m.atBoundary s.position != negated then next s else none
  | .look ahead negated p, s, next =>
    match run ahead p s some with
    | some t => if negated then none else next { s with groups := t.groups }
    | none => if negated then next s else none
  | .many p least most greedy firstGroup lastGroup, s, next =>
    let once := run forward p
    let rec rounds : Nat → Nat → Progression → Option Progression
      | 0, _, s => next s
      | fuel + 1, count, s =>
        let fresh := { s with groups := s.groups.mapIdx fun i g => if firstGroup ≤ i && i < lastGroup then none else g }
        let more (_ : Unit) : Option Progression :=
          if (most.map fun n => decide (n ≤ count)).getD false then none
          else
            once fresh fun t =>
              -- A round that takes nothing leads nowhere once there are enough.
              if t.position = s.position && least ≤ count then none else rounds fuel (count + 1) t
        if count < least then more ()
        else if greedy then
          match more () with
          | some t => some t
          | none => next s
        else
          match next s with
          | some t => some t
          | none => more ()
    rounds (m.text.size + least + 2) 0 s

def matchAt (e : Expression) (start : Nat) : Option (Array (Option (Nat × Nat))) :=
  (m.run true e.pattern ⟨start, Array.replicate e.groups none⟩ some).map fun t =>
    t.groups.set! 0 (some (start, t.position))

/-- The first match from a position on. -/
def search (e : Expression) : Nat → Nat → Option (Array (Option (Nat × Nat)))
  | 0, _ => none
  | fuel + 1, start =>
    if m.text.size < start then none
    else
      match m.matchAt e start with
      | some groups => some groups
      | none => search e fuel (start + 1)

end Matching

end BrainHost.Script
