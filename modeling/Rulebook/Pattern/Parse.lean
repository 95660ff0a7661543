/-
  From a pattern text to its tree.

      alternatives   sequence | sequence | …
      sequence       item item …            an item may carry a repetition
      item           character, set, class, anchor, reference or group

  1. `Item`: a tree with what a repetition behind it has to know;
  2. `readSet`: a set in brackets;
  3. `readBounds?`: the bounds of a repetition in braces, or none if they are plain text;
  4. `readSwitches`: the letters behind `(?`;
  5. `readAlternatives`, `readSequence`, `readGroup`: the grammar;
  6. `Node.fault?`: what only the whole tree shows.

  Every step of the grammar takes a token, so the count of characters bounds the depth of its
  recursion; the `fuel` below is a multiple of that count.
-/
import Rulebook.Pattern.Escape
import Rulebook.Text.Blank

namespace Rulebook.Pattern

open Rulebook.Text Rulebook.Number Rulebook.Pattern.Reading

/-! ## Items -/

/-- What a repetition wants to know of the item before it. -/
inductive ItemKind
  | other
  | anchor
  | repeated
deriving DecidableEq, Repr

/-- A piece of a sequence: its `node`, and its `kind` for a repetition behind it. -/
structure Item where
  kind : ItemKind
  node : Node
deriving Repr

/-- The surroundings of a piece of text: the switches in force (`flags`), whether blanks and
    comments are skipped (`verbose`), and whether it lies inside a group (`nested`). -/
structure Scope where
  flags : Flags
  verbose : Bool
  nested : Bool
deriving Repr

namespace Scope

/-- How letters are compared in the scope `s`. -/
def folding (s : Scope) : Folding :=
  if s.flags.ignoreCase then (if s.flags.ascii then .ascii else .unicode) else .exact

/-- The test for the character `code`, or with `negated` for any other one. -/
def literal (s : Scope) (code : Nat) (negated : Bool) : Node :=
  .char (.literal code negated s.folding)

/-- The test for the set of `items`; a set of one character is that character. -/
def setOf (s : Scope) (items : List SetItem) (negated : Bool) : Node :=
  match items.eraseDups with
  | [.single code] => s.literal code negated
  | items => .char (.set items negated s.folding s.flags.ascii)

end Scope

/-- The item of `node` when no repetition has to know more of it. -/
def Item.plain (node : Node) : Item := ⟨.other, node⟩

/-! ## Sets -/

/-- One end of a range or a single member, beginning with the token `t`. -/
def readMember (t : Token) : Reading SetItem :=
  match t with
  | .plain c => return .single c.toNat
  | .escaped c => Escape.inSet c

/-- The members of a set behind those `sofar`, up to its closing bracket, which does not close an
    empty set; `start` is the place of the opening one. -/
def readMembers (start : Nat) : (fuel : Nat) → (sofar : List SetItem) → Reading (List SetItem)
  | 0, sofar => return sofar
  | fuel + 1, sofar => do
    match ← take with
    | none => complainAt .unterminatedSet start
    | some first =>
      if first = .plain ']' ∧ !sofar.isEmpty then return sofar
      else
        let low ← readMember first
        if ← accept '-' then
          match ← take with
          | none => complainAt .unterminatedSet start
          | some second =>
            if second = .plain ']' then return sofar ++ [low, .single 45]
            else
              let high ← readMember second
              match low, high with
              | .single a, .single b =>
                if b < a then
                  complain (.badRange first.text second.text) (first.length + 1 + second.length)
                else readMembers start fuel (sofar ++ [.range a b])
              | _, _ =>
                complain (.badRange first.text second.text) (first.length + 1 + second.length)
        else readMembers start fuel (sofar ++ [low])

/-- A set, its opening bracket taken already; a circumflex in front makes it `negated`. -/
def readSet (scope : Scope) (fuel : Nat) : Reading Node := do
  let start := (← position) - 1
  let negated ← accept '^'
  let items ← readMembers start fuel []
  return scope.setOf items negated

/-! ## Repetitions -/

/-- The count of a repetition that `digits` write; too many digits and too large a count are faults
    that are no errors of the pattern. -/
def readCount (digits : List Char) : Reading Nat := do
  if Whole.digitLimit < digits.length then
    throw (.tooManyDigits (.reading digits.length))
  else if Node.lengthLimit ≤ readNat digits then throw .repeatTooLarge
  else return readNat digits

/-- The bounds in braces, the opening one taken already.  Anything but numbers and a comma makes
    the brace plain text, which is `none`, and reading goes on behind it. -/
def readBounds? (fuel : Nat) : Reading (Option (Nat × Option Nat)) := do
  let start ← position
  if (← peek) = some (.plain '\x7d') then return none
  let low ← takeWhile isAsciiDigit fuel
  let comma ← accept ','
  let high ← if comma then takeWhile isAsciiDigit fuel else pure low
  if ← accept '\x7d' then
    let least ← if low.isEmpty then pure 0 else readCount low
    if high.isEmpty then return some (least, none)
    else
      let most ← readCount high
      if most < least then complainAt .boundsReversed start
      else return some (least, some most)
  else
    seek start
    return none

/-- The style that the character behind a repetition asks for.  There is one such character at
    most: behind a `?` that has been taken, a `+` is a repetition of its own. -/
def readStyle : Reading Style := do
  if ← accept '?' then return .lazy
  if ← accept '+' then return .possessive
  return .greedy

/-- Puts a repetition on the last of the `items` of a sequence (given in reverse).  `start` is the
    place of the repetition. -/
def applyRepeat (start least : Nat) (most : Option Nat) (items : List Item) :
    Reading (List Item) := do
  match items with
  | [] => complainAt .nothingToRepeat start
  | item :: before =>
    match item.kind with
    | .anchor => complainAt .nothingToRepeat start
    | .repeated => complainAt .repeatedTwice start
    | .other =>
      let style ← readStyle
      return ⟨.repeated, .many style least most item.node⟩ :: before

/-! ## Switches -/

/-- Is the token a plain letter? -/
def Token.isLetter : Token → Bool
  | .plain c => Text.isLetter c
  | .escaped _ => false

/-- The switch that a token names. -/
def Token.switch? : Token → Option Flags
  | .plain c => Flags.ofLetter? c
  | .escaped _ => none

/-- Refuses the token `t` where a switch has to stand, or one of the characters in `what`. -/
def refuseSwitch {α : Type} (t : Token) (what : String) : Reading α :=
  complain (if t.isLetter then .unknownSwitch else .missing what) t.length

/-- The switches to turn on, `flag` and those `sofar` among them, and the character that ends
    them. -/
def readSwitchesOn : (fuel : Nat) → (flag : Flags) → (sofar : Flags) → Reading (Flags × Char)
  | 0, _, sofar => return (sofar, ')')
  | fuel + 1, flag, sofar => do
    if flag.locale then complain .localeSwitch 0
    let added := sofar.union flag
    if (flag.common .kinds).any ∧ added.common .kinds ≠ flag then
      complain .incompatibleSwitches 0
    match ← take with
    | none => complain (.missing "-, : or )") 0
    | some t =>
      match t with
      | .plain ')' => return (added, ')')
      | .plain '-' => return (added, '-')
      | .plain ':' => return (added, ':')
      | _ =>
        match t.switch? with
        | some next => readSwitchesOn fuel next added
        | none => refuseSwitch t "-, : or )"

/-- The switches to turn off, `flag` and those `sofar` among them, up to the colon. -/
def readSwitchesOff : (fuel : Nat) → (flag : Flags) → (sofar : Flags) → Reading Flags
  | 0, _, sofar => return sofar
  | fuel + 1, flag, sofar => do
    if (flag.common .kinds).any then complain .kindSwitchOff 0
    let dropped := sofar.union flag
    match ← take with
    | none => complain (.missing ":") 0
    | some t =>
      if t = .plain ':' then return dropped
      else
        match t.switch? with
        | some next => readSwitchesOff fuel next dropped
        | none => refuseSwitch t ":"

/-- The switches behind `(?`, of which the `first` is at hand if the token there is one: the ones
    turned on and off for a group, or none if they are meant for the whole pattern and are set. -/
def readSwitches (fuel : Nat) (first : Option Flags) : Reading (Option (Flags × Flags)) := do
  let (added, close) ←
    match first with
    | some flag => readSwitchesOn fuel flag {}
    | none => pure ({}, '-')
  if close == ')' then
    modify fun s => { s with flags := s.flags.union added }
    return none
  else
    if (added.common .whole).any then complain .wholeSwitchOn 1
    let dropped ←
      if close == '-' then
        match ← take with
        | none => complain (.missing "flag") 0
        | some t =>
          match t.switch? with
          | some flag => readSwitchesOff fuel flag {}
          | none => refuseSwitch t "flag"
      else pure {}
    if (dropped.common .whole).any then complain .wholeSwitchOff 1
    if (added.common dropped).any then complain .switchOnAndOff 1
    return some (added, dropped)

/-! ## Names and numbers of groups -/

/-- A group's `name` must be an identifier. -/
def checkName (name : List Char) : Reading Unit := do
  if !isIdentifier name then
    complain (.badGroupName (String.ofList name)) (name.length + 1)

/-- The number of the group called `name`, of which there must be one. -/
def groupNamed (name : List Char) : Reading Nat := do
  match (← get).names.lookup (String.ofList name) with
  | some group => return group
  | none => complain (.unknownGroupName (String.ofList name)) (name.length + 1)

/-- The digits in `cs`, between which single underscores are allowed. -/
def digitsOfNumber? (cs : List Char) : Option (List Char) :=
  let pairs := cs.zip (cs.drop 1)
  if cs.isEmpty || cs.head? == some '_' || cs.getLast? == some '_'
      || pairs.any (fun (a, b) => a == '_' && b == '_') then none
  else
    let digits := cs.filter (· != '_')
    if digits.all isDigit && digits.length ≤ Whole.digitLimit then some digits else none

/-- The number of a group in `name`: digits, with blanks around them and a plus sign allowed; minus
    zero is zero. -/
def groupNumber? (name : List Char) : Option Nat :=
  match stripChars name with
  | '+' :: cs => (digitsOfNumber? cs).map readNat
  | '-' :: cs => (digitsOfNumber? cs).bind fun ds => if readNat ds = 0 then some 0 else none
  | cs => (digitsOfNumber? cs).map readNat

/-- Group numbers from `groupLimit` on are out of range. -/
def groupLimit : Nat := 2147483647

/-- The group that a condition names or numbers. -/
def readCondition : Reading Nat := do
  let name ← takeName ')' "group name"
  let group ←
    if isIdentifier name then groupNamed name
    else
      match groupNumber? name with
      | none => complain (.badGroupName (String.ofList name)) (name.length + 1)
      | some 0 => complain .groupNumberZero (name.length + 1)
      | some group =>
        if groupLimit ≤ group then complain (.invalidGroup group) (name.length + 1)
        let place := (← position) - name.length - 1
        modify fun s =>
          if s.conditions.any (·.1 == group) then s
          else { s with conditions := s.conditions ++ [(group, place)] }
        pure group
  checkLookBehind group
  return group

/-! ## The grammar -/

/-- What an opening parenthesis introduces, by what stands behind it. -/
inductive Opening
  | capturing (name : Option (List Char))
  | plain
  | atomic
  | switched (added dropped : Flags)
  | ahead (negated : Bool)
  | behind (negated : Bool)
  | condition
  | again (name : List Char)
  | comment
  | wholeSwitches
deriving Repr

/-- Skips a comment up to its closing parenthesis; `start` is the place of its opening one. -/
def skipComment (start : Nat) : (fuel : Nat) → Reading Unit
  | 0 => return ()
  | fuel + 1 => do
    match ← take with
    | none => complainAt (.missing "), unterminated comment") start
    | some t => if t = .plain ')' then return () else skipComment start fuel

/-- Skips a comment of a verbose pattern, up to the end of the line. -/
def skipLine : (fuel : Nat) → Reading Unit
  | 0 => return ()
  | fuel + 1 => do
    match ← take with
    | none => return ()
    | some t => if t = .plain '\n' then return () else skipLine fuel

/-- What stands behind `(?P`. -/
def readNamedOpening : Reading Opening := do
  if ← accept '<' then
    let name ← takeName '>' "group name"
    checkName name
    return .capturing (some name)
  else if ← accept '=' then
    let name ← takeName ')' "group name"
    checkName name
    return .again name
  else
    match ← take with
    | none => complain .unexpectedEnd 0
    | some t => complain (.unknownExtension ("P" ++ t.text)) (t.length + 2)

/-- What stands behind `(?<`. -/
def readBehindOpening : Reading Opening := do
  match ← take with
  | none => complain .unexpectedEnd 0
  | some (.plain '=') => return .behind false
  | some (.plain '!') => return .behind true
  | some t => complain (.unknownExtension ("<" ++ t.text)) (t.length + 2)

/-- What the parenthesis at `start` introduces, the parenthesis itself taken already. -/
def readOpening (start fuel : Nat) : Reading Opening := do
  if ← accept '?' then
    match ← take with
    | none => complain .unexpectedEnd 0
    | some t =>
      match t with
      | .plain 'P' => readNamedOpening
      | .plain ':' => return .plain
      | .plain '#' =>
        skipComment start fuel
        return .comment
      | .plain '=' => return .ahead false
      | .plain '!' => return .ahead true
      | .plain '<' => readBehindOpening
      | .plain '(' => return .condition
      | .plain '>' => return .atomic
      | _ =>
        let first := t.switch?
        if first.isSome ∨ t = .plain '-' then
          match ← readSwitches fuel first with
          | some (added, dropped) => return .switched added dropped
          | none => return .wholeSwitches
        else complain (.unknownExtension t.text) (t.length + 1)
  else return .capturing none

/-- Takes the closing parenthesis of the group that begins at `start`. -/
def closeParenthesis (start : Nat) : Reading Unit := do
  if !(← accept ')') then complainAt (.missing "), unterminated subpattern") start

/-- The item that `c` behind a backslash makes outside brackets. -/
def itemOfEscape (scope : Scope) (c : Char) : Reading Item := do
  match ← Escape.inText scope.flags.ascii c with
  | .character code => return .plain (scope.literal code false)
  | .category item => return .plain (.char (.set [item] false scope.folding scope.flags.ascii))
  | .anchor a => return ⟨.anchor, .anchor a⟩
  | .group number low high => return .plain (.again number scope.folding low high)

/-- Is `c` a blank that a verbose pattern skips? -/
def isSkipped (c : Char) : Bool := isAsciiBlank c

mutual

/-- Sequences with bars between them; `isFirst` is for the first of them. -/
def readAlternatives (fuel : Nat) (scope : Scope) (isFirst : Bool) : Reading Node := do
  match fuel with
  | 0 => return .empty
  | fuel + 1 =>
    let first ← readSequence fuel scope isFirst []
    if ← accept '|' then
      let flags := (← get).flags
      let scope :=
        if scope.nested then scope else { scope with flags := flags, verbose := flags.verbose }
      return .either first (← readAlternatives fuel scope false)
    else return first

/-- Items up to a bar, a closing parenthesis or the end.  The `items` read so far are in reverse;
    `isFirst` says that no alternative and no group stands before or around them. -/
def readSequence (fuel : Nat) (scope : Scope) (isFirst : Bool) (items : List Item) :
    Reading Node := do
  match fuel with
  | 0 => return .empty
  | fuel + 1 =>
    match ← peek with
    | none => return .ofList (items.reverse.map (·.node))
    | some (.plain '|') => return .ofList (items.reverse.map (·.node))
    | some (.plain ')') => return .ofList (items.reverse.map (·.node))
    | some (.escaped c) =>
      let _ ← take
      let item ← itemOfEscape scope c
      readSequence fuel scope isFirst (item :: items)
    | some (.plain c) =>
      let start ← position
      let _ ← take
      if scope.verbose && isSkipped c then readSequence fuel scope isFirst items
      else if scope.verbose && c == '#' then
        skipLine fuel
        readSequence fuel scope isFirst items
      else
        let repeated (least : Nat) (most : Option Nat) : Reading Node := do
          readSequence fuel scope isFirst (← applyRepeat start least most items)
        let item (kind : ItemKind) (node : Node) : Reading Node :=
          readSequence fuel scope isFirst (⟨kind, node⟩ :: items)
        match c with
        | '?' => repeated 0 (some 1)
        | '*' => repeated 0 none
        | '+' => repeated 1 none
        | '\x7b' =>
          match ← readBounds? fuel with
          | some (least, most) => repeated least most
          | none => item .other (scope.literal c.toNat false)
        | '.' => item .other (.char (.any scope.flags.dotAll))
        | '^' => item .anchor (.anchor (if scope.flags.multiline then .lineStart else .textStart))
        | '$' => item .anchor (.anchor (if scope.flags.multiline then .lineEnd else .lastLineEnd))
        | '[' => item .other (← readSet scope fuel)
        | '(' =>
          match ← readOpening start fuel with
          | .comment => readSequence fuel scope isFirst items
          | .wholeSwitches =>
            if !isFirst || !items.isEmpty then complainAt .lateSwitches start
            else
              let flags := (← get).flags
              let scope := { scope with flags := flags, verbose := flags.verbose }
              readSequence fuel scope isFirst items
          | opening => item .other (← readGroup fuel scope start opening)
        | _ => item .other (scope.literal c.toNat false)

/-- The inside of the group that `opening` introduces, and its closing parenthesis. -/
def readGroup (fuel : Nat) (scope : Scope) (start : Nat) (opening : Opening) :
    Reading Node := do
  match fuel with
  | 0 => return .empty
  | fuel + 1 =>
    let inner := { scope with nested := true }
    match opening with
    | .capturing name =>
      let group ← openGroup name
      let body ← readAlternatives fuel inner false
      closeParenthesis start
      closeGroup group body.width
      return .capture group body
    | .plain =>
      let body ← readAlternatives fuel inner false
      closeParenthesis start
      return body
    | .atomic =>
      let body ← readAlternatives fuel inner false
      closeParenthesis start
      return .atomic body
    | .switched added dropped =>
      let verbose := (scope.verbose || added.verbose) && !dropped.verbose
      let inner := ⟨scope.flags.inside added dropped, verbose, true⟩
      let body ← readAlternatives fuel inner false
      closeParenthesis start
      return body
    | .ahead negated =>
      let body ← readAlternatives fuel inner false
      closeParenthesis start
      return .ahead negated body
    | .behind negated =>
      let outermost := (← get).lookBehindFrom.isNone
      if outermost then
        modify fun s => { s with lookBehindFrom := some s.widths.size }
      let body ← readAlternatives fuel inner false
      if outermost then modify fun s => { s with lookBehindFrom := none }
      closeParenthesis start
      return .behind negated body
    | .condition =>
      let group ← readCondition
      let yes ← readSequence fuel inner false []
      let no ←
        if ← accept '|' then
          let no ← readSequence fuel inner false []
          if (← peek) = some (.plain '|') then complain .tooManyBranches 0
          pure no
        else pure .empty
      closeParenthesis start
      return .ifGroup group yes no
    | .again name =>
      let group ← groupNamed name
      match ← closedGroup? group with
      | none => complain .groupStillOpen (name.length + 1)
      | some (low, high) =>
        checkLookBehind group
        return .again group scope.folding low high
    | .comment => return .empty
    | .wholeSwitches => return .empty

end

/-! ## Faults of the whole tree -/

/-- The name of a repetition in the complaint about template patterns. -/
def Style.operator : Style → String
  | .greedy => "MAX_REPEAT"
  | .lazy => "MIN_REPEAT"
  | .possessive => "POSSESSIVE_REPEAT"

/-- The first place where a look-behind has no fixed width, or where a pattern with the switch
    `template` repeats. -/
def Node.fault? (template : Bool) : Node → Option Complaint
  | .seq a b => (a.fault? template).or (b.fault? template)
  | .either a b => (a.fault? template).or (b.fault? template)
  | .capture _ body => body.fault? template
  | .atomic body => body.fault? template
  | .ahead _ body => body.fault? template
  | .behind _ body =>
    if body.width.1 ≠ body.width.2 then some .variableLookBehind
    else body.fault? template
  | .ifGroup _ yes no => (yes.fault? template).or (no.fault? template)
  | .many style _ _ body =>
    if template then some (.templateOperator style.operator) else body.fault? template
  | _ => none

end Rulebook.Pattern
