/-!
# Alignment

Which items two sequences do not share, when as few as possible are left out. The search goes from
both ends at once along the diagonals of the table of pairs: after so many items that are left out,
how far can each diagonal be followed? Where both searches meet, the problem falls into two smaller
ones.

Items are numbers; equal items have equal numbers.
-/

namespace JobLauncher.Shell.Alignment

/-- Two sequences. -/
structure Pair where
  left : Array Nat
  right : Array Nat

def Pair.same (p : Pair) (x y : Int) : Bool := p.left[x.toNat]? == p.right[y.toNat]?

/-- A part of both sequences, from one place up to another. -/
structure Box where
  left : Int
  leftEnd : Int
  right : Int
  rightEnd : Int

namespace Box

/-- How far equal items follow from a place on, counted in the left sequence. -/
def forward (b : Box) (p : Pair) : Nat → Int → Int → Int
  | 0, x, _ => x
  | fuel + 1, x, y =>
    if x < b.leftEnd && y < b.rightEnd && p.same x y then forward b p fuel (x + 1) (y + 1) else x

/-- How far equal items come before a place. -/
def backward (b : Box) (p : Pair) : Nat → Int → Int → Int
  | 0, x, _ => x
  | fuel + 1, x, y =>
    if b.left < x && b.right < y && p.same (x - 1) (y - 1) then backward b p fuel (x - 1) (y - 1)
    else x

/-- No diagonal is longer. -/
def size (b : Box) : Nat := (b.leftEnd - b.left + (b.rightEnd - b.right)).toNat

end Box

/-! ## Where the searches meet -/

/-- How far each diagonal from `low` to `high` has been followed. -/
structure Front where
  points : Array Int
  /-- The diagonal of the first point. -/
  origin : Int
  low : Int
  high : Int

namespace Front

def point (f : Front) (d : Int) : Int := f.points.getD (d - f.origin).toNat 0

def set (f : Front) (d x : Int) : Front :=
  { f with points := f.points.setIfInBounds (d - f.origin).toNat x }

/-- A front that starts on one diagonal of a box. -/
def start (b : Box) (d x : Int) : Front :=
  let origin := b.left - b.rightEnd - 1
  let front : Front := { points := Array.replicate (b.size + 3) 0, origin, low := d, high := d }
  front.set d x

/-- The front with one more diagonal on each side, or one less where the box ends. `outside` is what
is known of a diagonal that has not been followed. -/
def widen (f : Front) (b : Box) (outside : Int) : Front :=
  let f := if b.left - b.rightEnd < f.low then { f.set (f.low - 2) outside with low := f.low - 1 }
    else { f with low := f.low + 1 }
  if f.high < b.leftEnd - b.right then { f.set (f.high + 2) outside with high := f.high + 1 }
  else { f with high := f.high - 1 }

/-- Every other diagonal, the last one first. -/
def diagonals (f : Front) : List Int :=
  (List.range ((f.high - f.low) / 2 + 1).toNat).map fun (i : Nat) => f.high - 2 * (i : Int)

def holds (f : Front) (d : Int) : Bool := f.low ≤ d && d ≤ f.high

end Front

/-- Follows diagonals from the beginning; gives the point where the other front is met. -/
def follow (p : Pair) (b : Box) (other : Front) (meets : Bool) :
    List Int → Front → Front × Option (Int × Int)
  | [], f => (f, none)
  | d :: rest, f =>
    let below := f.point (d - 1)
    let above := f.point (d + 1)
    let x := b.forward p b.size (if below < above then above else below + 1)
      ((if below < above then above else below + 1) - d)
    let f := f.set d x
    if meets && other.holds d && other.point d ≤ x then (f, some (x, x - d))
    else follow p b other meets rest f

/-- Follows diagonals from the end. -/
def followBack (p : Pair) (b : Box) (other : Front) (meets : Bool) :
    List Int → Front → Front × Option (Int × Int)
  | [], f => (f, none)
  | d :: rest, f =>
    let below := f.point (d - 1)
    let above := f.point (d + 1)
    let x := b.backward p b.size (if below < above then below else above - 1)
      ((if below < above then below else above - 1) - d)
    let f := f.set d x
    if meets && other.holds d && x ≤ other.point d then (f, some (x, x - d))
    else followBack p b other meets rest f

/-- Widens both fronts in turn until they meet. -/
def meet (p : Pair) (b : Box) (odd : Bool) : Nat → Front → Front → Int × Int
  | 0, _, _ => (b.left, b.right)
  | fuel + 1, f, g =>
    let f := f.widen b (-1)
    let (f, met) := follow p b g odd f.diagonals f
    match met with
    | some place => place
    | none =>
      let g := g.widen b (b.leftEnd + b.rightEnd + 2)
      let (g, met) := followBack p b f (!odd) g.diagonals g
      match met with
      | some place => place
      | none => meet p b odd fuel f g

/-- The items of the left and of the right sequence that are left out. -/
def omitted (p : Pair) : Nat → Box → List Int × List Int
  | 0, _ => ([], [])
  | fuel + 1, b =>
    let x := b.forward p b.size b.left b.right
    let b := { b with right := b.right + (x - b.left), left := x }
    let x := b.backward p b.size b.leftEnd b.rightEnd
    let b := { b with rightEnd := b.rightEnd - (b.leftEnd - x), leftEnd := x }
    let span (a z : Int) : List Int := (List.range (z - a).toNat).map fun (i : Nat) => a + (i : Int)
    if b.left = b.leftEnd ∨ b.right = b.rightEnd then
      (span b.left b.leftEnd, span b.right b.rightEnd)
    else
      let first := b.left - b.right
      let last := b.leftEnd - b.rightEnd
      let (x, y) := meet p b ((first - last) % 2 ≠ 0) b.size
        (Front.start b first b.left) (Front.start b last b.leftEnd)
      let (l, r) := omitted p fuel { b with leftEnd := x, rightEnd := y }
      let (l', r') := omitted p fuel { b with left := x, right := y }
      (l ++ l', r ++ r')

/-! ## Runs of changes -/

/-- Which items of each sequence are left out. -/
structure Changes where
  left : Array Bool
  right : Array Bool

def flag (a : Array Bool) (i : Int) : Bool := 0 ≤ i && a.getD i.toNat false

def put (a : Array Bool) (i : Int) (b : Bool) : Array Bool := a.setIfInBounds i.toNat b

/-- The first place from `i` on that is not marked. -/
def past (a : Array Bool) (i : Int) : Int :=
  (List.range (a.size + 1)).foldl (fun i _ => if flag a i then i + 1 else i) i

/-- The last place up to `i` before which nothing is marked. -/
def backTo (a : Array Bool) (i : Int) : Int :=
  (List.range (a.size + 1)).foldl (fun i _ => if flag a (i - 1) then i - 1 else i) i

/-- The last place up to `i` that is not marked. -/
def before (a : Array Bool) (i : Int) : Int :=
  (List.range (a.size + 1)).foldl (fun i _ => if flag a i then i - 1 else i) i

/-- A run of changes from `first` up to `finish`, with the place in the other sequence that belongs to
its end. `level` is the last end at which changes stand against each other in both. -/
structure Run where
  marks : Array Bool
  first : Int
  finish : Int
  other : Int
  level : Int

namespace Run

variable (items : Array Nat) (others : Array Bool)

def equal (i j : Int) : Bool := items[i.toNat]? == items[j.toNat]?

/-- Moves a run back as long as the item before it equals its last one; it takes in the runs that it
comes to. -/
def back : Nat → Run → Run
  | 0, r => r
  | fuel + 1, r =>
    if 0 < r.first && equal items (r.first - 1) (r.finish - 1) then
      let marks := put (put r.marks (r.first - 1) true) (r.finish - 1) false
      back fuel { r with
        marks, first := backTo marks (r.first - 1), finish := r.finish - 1
        other := before others (r.other - 1) }
    else r

/-- Moves a run forward as long as the item after it equals its first one. -/
def forth : Nat → Run → Run
  | 0, r => r
  | fuel + 1, r =>
    if r.finish < items.size && equal items r.first r.finish then
      let marks := put (put r.marks r.first false) r.finish true
      let finish := past marks (r.finish + 1)
      let other := past others (r.other + 1)
      forth fuel { r with
        marks, first := r.first + 1, finish, other
        level := if flag others (r.other + 1) then finish else r.level }
    else r

/-- Moves a run to and fro until it does not grow any more; then it is as far forward as it can be. -/
def settle : Nat → Run → Run
  | 0, r => r
  | fuel + 1, r =>
    let length := r.finish - r.first
    let r := back items others (items.size + 1) r
    let r := { r with level := if flag others (r.other - 1) then r.finish else items.size }
    let r := forth items others (items.size + 1) r
    if r.finish - r.first = length then r else settle fuel r

/-- Moves a run back to where changes stand against each other. -/
def leveled : Nat → Run → Run
  | 0, r => r
  | fuel + 1, r =>
    if r.level < r.finish then
      leveled fuel { r with
        marks := put (put r.marks (r.first - 1) true) (r.finish - 1) false
        first := r.first - 1, finish := r.finish - 1, other := before others (r.other - 1) }
    else r

end Run

/-- Moves the runs of changes in one sequence, from a place on. -/
def settled (items : Array Nat) (others : Array Bool) : Nat → Array Bool → Int → Int → Array Bool
  | 0, marks, _, _ => marks
  | fuel + 1, marks, i, j =>
    if items.size ≤ i then marks
    else if !flag marks i then settled items others fuel marks (i + 1) (past others j + 1)
    else
      let run : Run :=
        { marks, first := i, finish := past marks i, other := past others j, level := items.size }
      let run := (run.settle items others (items.size + 1)).leveled others (items.size + 1)
      settled items others fuel run.marks run.finish run.other

/-- Which items of two sequences are left out. Items that the other sequence has not at all are left
out beforehand. -/
def changes (p : Pair) : Changes :=
  let kept (a b : Array Nat) : List Nat := (List.range a.size).filter fun i => b.contains (a.getD i 0)
  let left := (kept p.left p.right).toArray
  let right := (kept p.right p.left).toArray
  let inner : Pair :=
    ⟨left.map fun i => p.left.getD i 0, right.map fun i => p.right.getD i 0⟩
  let (l, r) := omitted inner (left.size + right.size + 1) ⟨0, left.size, 0, right.size⟩
  let marked (whole : Array Nat) (kept : Array Nat) (out : List Int) : Array Bool :=
    let marks := kept.foldl (fun m i => m.setIfInBounds i false) (Array.replicate whole.size true)
    out.foldl (fun m k => m.setIfInBounds (kept.getD k.toNat 0) true) marks
  let a := marked p.left left l
  let b := marked p.right right r
  let fuel := p.left.size + p.right.size + 1
  let a := settled p.left b fuel a 0 0
  let b := settled p.right a fuel b 0 0
  ⟨a, b⟩

/-- Items that are left out on both sides at one place. -/
structure Hunk where
  left : Nat
  leftCount : Nat
  right : Nat
  rightCount : Nat
  deriving DecidableEq, Repr

/-- How many places are marked from one on. -/
def runLength (a : Array Bool) (i : Nat) : Nat := (past a i - i).toNat

/-- The changes in order. -/
def hunks (c : Changes) : List Hunk :=
  go (c.left.size + c.right.size + 1) 0 0
where
  go : Nat → Nat → Nat → List Hunk
    | 0, _, _ => []
    | fuel + 1, i, j =>
      if c.left.size ≤ i ∧ c.right.size ≤ j then []
      else
        let m := runLength c.left i
        let n := runLength c.right j
        if m = 0 ∧ n = 0 then go fuel (i + 1) (j + 1)
        else ⟨i, m, j, n⟩ :: go fuel (i + m) (j + n)

end JobLauncher.Shell.Alignment
