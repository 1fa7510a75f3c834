import JobLauncher.Shell.Store

/-!
# Arithmetic

Expressions over whole numbers of 64 bits. An expression is evaluated while it is read, so what
stands before a mistake has its effect. The value of a variable is an expression too.
-/

namespace JobLauncher.Shell.Arithmetic

/-- A symbol of an expression. -/
inductive Symbol where
  | number (n : Int)
  | name (name : Bytes) (index : Option Bytes)
  | operator (op : String)
  /-- An equals sign, perhaps with an operator that it is joined to. -/
  | assign (op : Option String)
  /-- One more or less, before a variable. -/
  | before (up : Bool)
  /-- One more or less, after a variable. -/
  | after (up : Bool)
  | finish
  deriving DecidableEq, Repr

/-- The state of reading an expression. -/
structure Scan where
  /-- The whole expression. -/
  text : Bytes
  /-- What is left after the symbol at hand. -/
  rest : Bytes
  /-- What an error shows: the text from the symbol at hand on. -/
  here : Bytes
  symbol : Symbol := .finish
  /-- A variable has just been changed by the sign before it. -/
  stepped : Bool := false
  /-- How many parts around this one do not count. -/
  idle : Nat := 0

/-- Why a text is no expression. -/
structure Fault where
  reason : String
  /-- The expression, and the part of it that an error shows. -/
  text : Bytes
  here : Bytes
  deriving DecidableEq, Repr

/-- What the shell says about a fault in an expression. -/
def Fault.message (f : Fault) : Dialect → Bytes
  | .full => f.text.dropWhile isBlank ++ bytes ": " ++ bytes f.reason ++ bytes " (error token is \""
    ++ f.here ++ bytes "\")"
  | .plain =>
    let reason :=
      if f.reason = "division by 0" then "division by zero"
      else if f.reason = "syntax error: operand expected" then "expecting primary"
      else "expecting EOF"
    bytes "arithmetic expression: " ++ bytes reason ++ bytes ": \"" ++ f.text ++ bytes "\""

/-- A reader of a part of an expression. -/
abbrev Reading := StateT Scan (ExceptT Fault Act)

/-- Fails with what is wrong and where. -/
def fault (reason : String) : Reading α := do
  let s ← get
  throw { reason, text := s.text, here := s.here }

/-- A number of 64 bits with a sign. -/
def wrap (n : Int) : Int := Int.bmod n UInt64.size

def ofBool (b : Bool) : Int := if b then 1 else 0

/-- A power modulo the range of numbers. -/
def power (a : Int) (n : Nat) : Int :=
  if n = 0 then 1
  else
    let half := power a (n / 2)
    let square := wrap (half * half)
    if n % 2 = 0 then square else wrap (square * a)
termination_by n

/-! ## Numbers -/

/-- The value of a digit in a base of up to 64. -/
def digitValue? (base : Nat) (c : Char) : Option Nat :=
  let v :=
    if c.isDigit then c.toNat - '0'.toNat
    else if c.isLower then c.toNat - 'a'.toNat + 10
    else if c.isUpper then c.toNat - 'A'.toNat + (if base ≤ 36 then 10 else 36)
    else if c = '@' then 62
    else 63
  if v < base then some v else none

/-- The number that digits write in a base. -/
def numberIn (base : Nat) (cs : Bytes) : Except String Int :=
  match cs.mapM (digitValue? base) with
  | none => .error "value too great for base"
  | some ds => .ok (wrap (ds.foldl (fun n d => base * n + d) 0 : Nat))

/-- The number that a text is: in base 8 or 16 if it begins with a zero, or in a base that it names,
else in base 10. -/
def numberOf (cs : Bytes) : Except String Int :=
  match cs with
  | '0' :: x :: rest =>
    if x = 'x' ∨ x = 'X' then checked 16 rest else checked 8 (x :: rest)
  | cs =>
    let base := cs.takeWhile (· ≠ '#')
    match cs.drop base.length with
    | _ :: rest =>
      match numberIn 10 base with
      | .ok n =>
        if n < 2 ∨ 64 < n then .error "invalid arithmetic base"
        else if rest = [] then .error "invalid integer constant"
        else checked n.toNat rest
      | .error e => .error e
    | [] => numberIn 10 base
where
  checked (base : Nat) (cs : Bytes) : Except String Int :=
    if cs.contains '#' then .error "invalid number" else numberIn base cs

/-! ## Symbols -/

/-- Operators that an equals sign may follow. -/
def assignable : List String := ["*", "/", "%", "+", "-", "&", "^", "|", "<<", ">>"]

/-- Operators of two characters. -/
def pairs : List String := ["==", "!=", ">=", "<=", "<<", ">>", "&&", "||", "**"]

/-- The characters that are operators. -/
def isSign (c : Char) : Bool := "=><+-*/%!()&|^~?:,".toList.contains c

/-- Whether something that can be an operand has been read last. -/
def Symbol.isOperand : Symbol → Bool
  | .number _ | .name .. | .after _ => true
  | _ => false

/-- The text of an index up to the bracket that closes it, and what follows. -/
def index? (depth : Nat) (begun : Bytes) : Bytes → Option (Bytes × Bytes)
  | [] => none
  | c :: rest =>
    if c = ']' ∧ depth = 0 then some (begun.reverse, rest)
    else
      index? (if c = '[' then depth + 1 else if c = ']' then depth - 1 else depth) (c :: begun) rest

/-- Goes on to the next symbol. At the end of the text errors still show the last one. -/
def next : Reading Unit := do
  let s ← get
  let text := s.rest.dropWhile isBlankOrEnd
  match text with
  | [] => set { s with rest := [], symbol := .finish }
  | c :: more =>
    let found (symbol : Symbol) (rest : Bytes) : Reading Unit :=
      set { s with rest, here := text, symbol, stepped := false }
    set { s with here := text }
    if isNameStart c then
      let name := text.takeWhile isNameChar
      match text.drop name.length with
      | '[' :: inside =>
        match index? 0 [] inside with
        | some (index, rest) => found (.name name (some index)) rest
        | none => fault "bad array subscript"
      | rest => found (.name name none) rest
    else if c.isDigit then
      let digits := text.takeWhile fun c => c.isAlphanum || c == '#' || c == '@' || c == '_'
      match numberOf digits with
      | .ok n => found (.number n) (text.drop digits.length)
      | .error e => fault e
    else
      let two := String.ofList (text.take 2)
      let beforeAssign := assignable.find? fun op =>
        (op.toList ++ ['=']).isPrefixOf text
      match beforeAssign with
      | some op => found (.assign (some op)) (text.drop (op.length + 1))
      | none =>
        if pairs.contains two then found (.operator two) (text.drop 2)
        else if two = "++" ∨ two = "--" then
          let up : Bool := two = "++"
          let rest := text.drop 2
          match s.symbol with
          | .name .. => found (.after up) rest
          | _ =>
            if s.stepped then fault (two ++ ": assignment requires lvalue")
            else if (rest.dropWhile isBlankOrEnd).head?.any isNameStart then found (.before up) rest
            else found (.operator (toString c)) more
        else if c = '=' then found (.assign none) more
        else if isSign c then found (.operator (toString c)) more
        else if s.symbol.isOperand then fault "syntax error: invalid arithmetic operator"
        else fault "syntax error: operand expected"

/-! ## Values -/

/-- The value of an operator; none for a division by zero. -/
def apply (op : String) (a b : Int) : Option Int :=
  let onBits (f : UInt64 → UInt64 → UInt64) : Int :=
    wrap (f (UInt64.ofInt a) (UInt64.ofInt b)).toNat
  let places : Nat := (b % 64).toNat
  match op with
  | "|" => some (onBits (· ||| ·))
  | "^" => some (onBits (· ^^^ ·))
  | "&" => some (onBits (· &&& ·))
  | "==" => some (ofBool (a = b))
  | "!=" => some (ofBool (a ≠ b))
  | "<=" => some (ofBool (a ≤ b))
  | ">=" => some (ofBool (b ≤ a))
  | "<" => some (ofBool (a < b))
  | ">" => some (ofBool (b < a))
  | "<<" => some (wrap (a * Nat.pow 2 places))
  | ">>" => some (a / Nat.pow 2 places)
  | "+" => some (wrap (a + b))
  | "-" => some (wrap (a - b))
  | "*" => some (wrap (a * b))
  | "/" => if b = 0 then none else some (wrap (Int.tdiv a b))
  | "%" => if b = 0 then none else some (Int.tmod a b)
  | _ => none

/-- Binary operators, by level; those that bind least come first. -/
def levels : List (List String) :=
  [["||"], ["&&"], ["|"], ["^"], ["&"], ["==", "!="], ["<=", ">=", "<", ">"], ["<<", ">>"],
    ["+", "-"], ["*", "/", "%"]]

/-- A value, and the place that it was taken from if nothing has been done with it. -/
structure Operand where
  value : Int
  place : Option Place := none

/-- Reads a part that does not count if `skipped` holds. -/
def idleIf (skipped : Bool) (r : Reading α) : Reading α := do
  if skipped then
    modify fun s => { s with idle := s.idle + 1 }
    let a ← r
    modify fun s => { s with idle := s.idle - 1 }
    return a
  else r

/-- Puts a number at a place. -/
def assign (p : Place) (n : Int) : Reading Unit := do
  if (← get).idle = 0 then
    unless ← liftM (store p (integer n)) do
      liftM (complain (p.name ++ bytes ": bad array subscript"))

/-- The operator at hand, if it is one of some. -/
def operatorAmong? (ops : List String) : Reading (Option String) := do
  match (← get).symbol with
  | .operator op => return if ops.contains op then some op else none
  | _ => return none

/-- How deep values of variables may be nested. -/
def maxLevel : Nat := 1024

mutual

/-- The value of an expression that is a whole text. -/
def whole : Nat → Nat → Bytes → ExceptT Fault Act Int
  | 0, _, _ => return 0
  | fuel + 1, level, text => do
    if (text.dropWhile isBlankOrEnd) = [] then return 0
    else
      let read : Reading Int := do
        if maxLevel ≤ level then
          modify fun s => { s with here := text }
          fault "expression recursion level exceeded"
        next
        let n ← sequence fuel level
        unless (← get).symbol = .finish do fault "syntax error in expression"
        return n
      read.run' { text, rest := text, here := [] }

/-- Parts with commas between them; the last one counts. -/
def sequence : Nat → Nat → Reading Int
  | 0, _ => return 0
  | fuel + 1, level => do
    let n ← assignment fuel level
    match (← get).symbol with
    | .operator "," =>
      next
      sequence fuel level
    | _ => return n

/-- A value, perhaps given to a variable. -/
def assignment : Nat → Nat → Reading Int
  | 0, _ => return 0
  | fuel + 1, level => do
    let a ← question fuel level
    match (← get).symbol with
    | .assign op =>
      match a.place with
      | none => fault "attempted assignment to non-variable"
      | some p =>
        next
        let b ← assignment fuel level
        let n ← match op with
          | none => pure b
          | some op =>
            match apply op a.value b with
            | some n => pure n
            | none => if (← get).idle = 0 then fault "division by 0" else pure 0
        assign p n
        return n
    | _ => return a.value

/-- A value, or a condition and the two values that it chooses from. -/
def question : Nat → Nat → Reading Operand
  | 0, _ => return ⟨0, none⟩
  | fuel + 1, level => do
    let a ← binary fuel level levels
    match (← get).symbol with
    | .operator "?" =>
      let yes ← idleIf (a.value = 0) do
        next
        match (← get).symbol with
        | .finish | .operator ":" => fault "expression expected"
        | _ => sequence fuel level
      unless (← get).symbol = .operator ":" do
        fault "\x60:' expected for conditional expression"
      let no ← idleIf (a.value ≠ 0) do
        next
        match (← get).symbol with
        | .finish => fault "expression expected"
        | _ => question fuel level
      return ⟨if a.value ≠ 0 then yes else no.value, none⟩
    | _ => return a

/-- Values joined by the operators of a level and those that bind more. -/
def binary : Nat → Nat → List (List String) → Reading Operand
  | 0, _, _ => return ⟨0, none⟩
  | fuel + 1, level, [] => powers fuel level
  | fuel + 1, level, ops :: more => do
    let a ← binary fuel level more
    chain fuel level ops more a

/-- Goes on from a value with the operators of a level. -/
def chain : Nat → Nat → List String → List (List String) → Operand → Reading Operand
  | 0, _, _, _, a => return a
  | fuel + 1, level, ops, more, a => do
    match ← operatorAmong? ops with
    | none => return a
    | some op =>
      let side : Bool := (op = "||" ∧ a.value ≠ 0) ∨ (op = "&&" ∧ a.value = 0)
      let operandText := (← get).rest.dropWhile isBlank
      let b ← idleIf side do
        next
        binary fuel level more
      let n ←
        if op = "||" then pure (ofBool (a.value ≠ 0 ∨ b.value ≠ 0))
        else if op = "&&" then pure (ofBool (a.value ≠ 0 ∧ b.value ≠ 0))
        else match apply op a.value b.value with
          | some n => pure n
          | none =>
            if (← get).idle = 0 then
              modify fun s => { s with here := operandText }
              fault "division by 0"
            else pure 0
      chain fuel level ops more ⟨n, none⟩

/-- A value raised to a power, which may be one itself. -/
def powers : Nat → Nat → Reading Operand
  | 0, _ => return ⟨0, none⟩
  | fuel + 1, level => do
    let a ← signed fuel level
    match ← operatorAmong? ["**"] with
    | none => return a
    | some _ =>
      next
      let b ← powers fuel level
      if b.value < 0 then fault "exponent less than 0"
      return ⟨power a.value b.value.toNat, none⟩

/-- A value with signs before it. -/
def signed : Nat → Nat → Reading Operand
  | 0, _ => return ⟨0, none⟩
  | fuel + 1, level => do
    match ← operatorAmong? ["!", "~", "-", "+"] with
    | none => operand fuel level
    | some op =>
      next
      let a ← signed fuel level
      let n :=
        if op = "!" then ofBool (a.value = 0)
        else if op = "~" then -a.value - 1
        else if op = "-" then wrap (-a.value)
        else a.value
      return ⟨n, none⟩

/-- A number, a variable or an expression between parentheses. -/
def operand : Nat → Nat → Reading Operand
  | 0, _ => return ⟨0, none⟩
  | fuel + 1, level => do
    match (← get).symbol with
    | .before up =>
      next
      match (← get).symbol with
      | .name name index =>
        let p ← placeNamed fuel level name index
        let n := wrap ((← look fuel level p) + if up then 1 else -1)
        assign p n
        modify fun s => { s with symbol := .number n, stepped := true }
        next
        return ⟨n, none⟩
      | _ => fault "identifier expected after pre-increment or pre-decrement"
    | .operator "(" =>
      next
      let n ← sequence fuel level
      unless (← get).symbol = .operator ")" do fault "missing \x60)'"
      next
      return ⟨n, none⟩
    | .number n =>
      next
      return ⟨n, none⟩
    | .name name index =>
      let p ← placeNamed fuel level name index
      next
      match (← get).symbol with
      | .assign none => return ⟨0, some p⟩
      | .after up =>
        let n ← look fuel level p
        assign p (wrap (n + if up then 1 else -1))
        next
        return ⟨n, none⟩
      | _ => return ⟨← look fuel level p, some p⟩
    | _ => fault "syntax error: operand expected"

/-- The place that a name and an index mean. -/
def placeNamed : Nat → Nat → Bytes → Option Bytes → Reading Place
  | 0, _, name, _ => return { name }
  | _, _, name, none => return { name }
  | fuel + 1, level, name, some index => do
    if (← get).idle ≠ 0 then return { name }
    let m ← (liftM (get : Act Machine) : Reading Machine)
    match m.value name with
    | .table _ => return { name, key := .name (index.filter fun c => c ≠ '"' ∧ c ≠ apostrophe) }
    | _ =>
      let n ← liftM (whole fuel (level + 1) index)
      return { name, key := .number n }

/-- The number at a place. -/
def look : Nat → Nat → Place → Reading Int
  | 0, _, _ => return 0
  | fuel + 1, level, p => do
    if (← get).idle ≠ 0 then return 0
    let m ← (liftM (get : Act Machine) : Reading Machine)
    if p.name = bytes "RANDOM" then liftM advanceSeed
    match m.at? p with
    | some t => liftM (whole fuel (level + 1) t)
    | none => if m.has "nounset" then liftM (refuseUnset p.name : Act Int) else return 0

end

/-- How deep the evaluation of an expression may go. -/
def maxDepth : Nat := 100000

/-- The value of an expression, or what is wrong with it. -/
def value (text : Bytes) : Act (Except Fault Int) := (whole maxDepth 0 text).run

end JobLauncher.Shell.Arithmetic
