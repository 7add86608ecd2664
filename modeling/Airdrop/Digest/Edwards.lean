import Airdrop.Digest.Sha512
import Airdrop.Octets.LittleEndian

/-!
# Digest/Edwards — the curve of the ledger's signatures

Points satisfy `-x² + y² = 1 + d x² y²` over the integers modulo `2 ^ 255 - 19`.  Thirty-two bytes
name a point by its `y` and the lowest bit of its `x`, so **whether bytes name a point is a question
about squares**: `x² = (y² - 1) / (d y² + 1)` has to be one, and `Edwards.isSquare` decides that by
raising to the power `(p - 1) / 2`.
-/

namespace Airdrop.Edwards

/-- The modulus `2 ^ 255 - 19`. -/
def p : Nat := 1 <<< 255 - 19

/-- The constant of the curve, `-121665 / 121666`. -/
def d : Nat := 37095705934669439343138083508754565189542113879843219016388785533085940283555

/-- Sum modulo `p`. -/
def add (a b : Nat) : Nat := (a + b) % p

/-- Difference modulo `p`. -/
def sub (a b : Nat) : Nat := (a + (p - b % p)) % p

/-- Product modulo `p`. -/
def mul (a b : Nat) : Nat := a * b % p

/-- `acc * base ^ n` modulo `p`, by repeated squaring. -/
def powBy (acc base n : Nat) : Nat :=
  if h : n = 0 then acc
  else powBy (if n % 2 = 1 then mul acc base else acc) (mul base base) (n / 2)
termination_by n
decreasing_by omega

/-- Power modulo `p`. -/
def pow (a n : Nat) : Nat := powBy 1 (a % p) n

/-- Whether a number is a square modulo `p`. -/
def isSquare (a : Nat) : Bool := a % p == 0 || pow a ((p - 1) / 2) == 1

/-- **Whether 32 bytes name a point of the curve.**  The sign bit of `x` plays no part, and a `y`
of `p` or more stands for its remainder. -/
def isPoint (bytes : Octets 32) : Bool :=
  let y := LittleEndian.valueOf bytes.toList % (1 <<< 255) % p
  let yy := mul y y
  isSquare (mul (sub yy 1) (add (mul d yy) 1))

/-- A point in extended coordinates: `x = X / Z`, `y = Y / Z`, `T = X Y / Z`. -/
structure Point where
  X : Nat
  Y : Nat
  Z : Nat
  T : Nat

/-- The neutral point. -/
def zero : Point := ⟨0, 1, 1, 0⟩

/-- The point whose multiples are the public keys: `y = 4 / 5`, `x` even. -/
def generator : Point :=
  let x := 15112221349535400772501151409588531511454012693041857206046113283949847762202
  let y := 46316835694926478169428394003475163141307993866256225615783033603165251855960
  ⟨x, y, 1, mul x y⟩

/-- Sum of two points. -/
def Point.add (P Q : Point) : Point :=
  let a := mul (sub P.Y P.X) (sub Q.Y Q.X)
  let b := mul (Edwards.add P.Y P.X) (Edwards.add Q.Y Q.X)
  let c := mul (mul 2 d) (mul P.T Q.T)
  let e := mul 2 (mul P.Z Q.Z)
  let h := sub b a
  let f := sub e c
  let g := Edwards.add e c
  let k := Edwards.add b a
  ⟨mul h f, mul g k, mul f g, mul h k⟩

/-- `acc + n P`, by repeated doubling. -/
def Point.timesBy (acc P : Point) (n : Nat) : Point :=
  if h : n = 0 then acc
  else timesBy (if n % 2 = 1 then acc.add P else acc) (P.add P) (n / 2)
termination_by n
decreasing_by omega

/-- The 32 bytes that name a point. -/
def Point.name (P : Point) : Octets 32 :=
  let inverse := pow P.Z (p - 2)
  let x := mul P.X inverse
  let y := mul P.Y inverse
  ⟨LittleEndian.bytesOf 32 (y + (x % 2) <<< 255), LittleEndian.length_bytesOf 32 _⟩

/-- **The public key of a 32-byte secret.**  The first half of its hash, with three low bits
cleared and the two high bits set to `01`, is the multiple of the generator. -/
def publicKey (secret : Octets 32) : Octets 32 :=
  let half := LittleEndian.valueOf ((Sha512.hash secret.toList).toList.take 32)
  let scalar := half % (1 <<< 254) / 8 * 8 + 1 <<< 254
  (zero.timesBy generator scalar).name

end Airdrop.Edwards
