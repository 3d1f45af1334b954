import Zkdeal.Numbers.Primality
import Zkdeal.Python.Bytes
import Zkdeal.Python.Integer
import Zkdeal.Soak.Events

/-!
# secp256k1

The driver signs its transactions, and recovers who signed a receipt, with its own arithmetic on the curve
`y² = x³ + 7`: points are triples in Jacobian coordinates, and a scalar is multiplied by doubling and adding.
-/

namespace Zkdeal.OwnerSoak

open Python Soak Numbers

/-! ## Points -/

/-- `SECP256K1_P` -/
def secp256k1P : ℕ := 1 <<< 256 - 1 <<< 32 - 977

/-- `SECP256K1_N` -/
def secp256k1N : ℕ := 0xFFFFFFFFFFFFFFFFFFFFFFFFFFFFFFFEBAAEDCE6AF48A03BBFD25E8CD0364141

/-- `SECP256K1_HALF_N` -/
def secp256k1HalfN : ℕ := secp256k1N >>> 1

/-- A point in Jacobian coordinates. -/
abbrev JacobianPoint := ℕ × ℕ × ℕ

/-- `SECP256K1_G` -/
def secp256k1G : JacobianPoint :=
  (0x79BE667EF9DCBBAC55A06295CE870B07029BFCDB2DCE28D959F2815B16F81798,
    0x483ADA7726A3C4655DA4FBFC0E1108A8FD17B448A68554199C47D08FFB10D4B8, 1)

/-- `value % SECP256K1_P` -/
def reduced (value : ℤ) : ℕ := (value % secp256k1P).toNat

/-- `_jacobian_double(point)` -/
def jacobianDouble : JacobianPoint → JacobianPoint
  | (x, y, z) =>
    if y = 0 ∨ z = 0 then (0, 0, 0)
    else
      let ysq := reduced (y * y)
      let s := reduced (4 * x * ysq)
      let m := reduced (3 * x * x)
      let nx := reduced (m * m - 2 * s)
      let ny := reduced (m * (s - nx) - 8 * ysq * ysq)
      let nz := reduced (2 * y * z)
      (nx, ny, nz)

/-- `_jacobian_add(left, right)` -/
def jacobianAdd (left right : JacobianPoint) : JacobianPoint :=
  if left.2.1 = 0 ∨ left.2.2 = 0 then right
  else if right.2.1 = 0 ∨ right.2.2 = 0 then left
  else
    let (x1, y1, z1) := left
    let (x2, y2, z2) := right
    let z1sq := reduced (z1 * z1)
    let z2sq := reduced (z2 * z2)
    let u1 := reduced (x1 * z2sq)
    let u2 := reduced (x2 * z1sq)
    let s1 := reduced (y1 * z2sq * z2)
    let s2 := reduced (y2 * z1sq * z1)
    if u1 = u2 then if s1 ≠ s2 then (0, 0, 0) else jacobianDouble left
    else
      let h := reduced (u2 - u1)
      let r := reduced (s2 - s1)
      let h2 := reduced (h * h)
      let h3 := reduced (h * h2)
      let u1h2 := reduced (u1 * h2)
      let nx := reduced (r * r - h3 - 2 * u1h2)
      let ny := reduced (r * (u1h2 - nx) - s1 * h3)
      let nz := reduced (h * z1 * z2)
      (nx, ny, nz)

/-- The loop of `_jacobian_multiply`, for a factor of at most `steps` bits. -/
def multiplyLoop : ℕ → ℕ → JacobianPoint → JacobianPoint → JacobianPoint
  | 0, _, result, _ => result
  | steps + 1, factor, result, addend =>
    if factor = 0 then result
    else
      multiplyLoop steps (factor >>> 1) (if factor &&& 1 = 1 then jacobianAdd result addend else result)
        (jacobianDouble addend)

/-- `_jacobian_multiply(point, scalar)`; a factor below `SECP256K1_N` has at most 256 bits. -/
def jacobianMultiply (point : JacobianPoint) (scalar : ℕ) : JacobianPoint :=
  let factor := scalar % secp256k1N
  if factor = 0 ∨ point.2.1 = 0 ∨ point.2.2 = 0 then (0, 0, 0) else multiplyLoop 256 factor (0, 0, 0) point

/-- `_to_affine(point)` -/
def toAffine : JacobianPoint → Except Raised (ℕ × ℕ)
  | (x, y, z) =>
    if y = 0 ∨ z = 0 then .error (.driverError "secp256k1 produced the point at infinity")
    else
      let inverse := powMod z (secp256k1P - 2) secp256k1P
      let square := inverse * inverse % secp256k1P
      .ok (x * square % secp256k1P, y * square * inverse % secp256k1P)

/-! ## Signatures -/

/-- What `private_key_int` returns. -/
structure PrivateKey where
  value : ℕ
  pos : 0 < value
  lt : value < secp256k1N

/-- `hmac.new(key, message, hashlib.sha256).digest()` for a key of at most 64 bytes -/
def hmacDigest (key message : Bytes) : Bytes :=
  let block := key ++ List.replicate (64 - key.length) 0
  Sha256.bytesDigest (block.map (· ^^^ 0x5c) ++ Sha256.bytesDigest (block.map (· ^^^ 0x36) ++ message))

/-- The loop of `_rfc6979_nonces`. -/
def noncesFrom : ℕ → Bytes → Bytes → List ℕ
  | 0, _, _ => []
  | attempts + 1, k, v =>
    let v := hmacDigest k v
    let candidate := fromBig v
    let k' := hmacDigest k (v ++ [0])
    let rest := noncesFrom attempts k' (hmacDigest k' v)
    if 0 < candidate ∧ candidate < secp256k1N then candidate :: rest else rest

/-- `_rfc6979_nonces(digest, private_key)` -/
def rfc6979Nonces (digest : Bytes) (privateKey : PrivateKey) : List ℕ :=
  let keyOctets := toBig 32 privateKey.value
  let messageOctets := toBig 32 (fromBig digest % secp256k1N)
  let v := List.replicate 32 1
  let k := List.replicate 32 0
  let k := hmacDigest k (v ++ [0] ++ keyOctets ++ messageOctets)
  let v := hmacDigest k v
  let k := hmacDigest k (v ++ [1] ++ keyOctets ++ messageOctets)
  let v := hmacDigest k v
  noncesFrom 1024 k v

/-- The loop of `sign_digest`. -/
def signWith (message : ℕ) (privateKey : PrivateKey) : List ℕ → Except Raised (ℕ × ℕ × ℕ)
  | [] => .error (.driverError "secp256k1 signing exhausted its deterministic nonce sequence")
  | nonce :: nonces => do
    let point ← toAffine (jacobianMultiply secp256k1G nonce)
    let r := point.1 % secp256k1N
    if r = 0 then signWith message privateKey nonces
    else
      let s := powMod nonce (secp256k1N - 2) secp256k1N * (message + r * privateKey.value) % secp256k1N
      if s = 0 then signWith message privateKey nonces
      else
        let recovery := (point.2 &&& 1) ||| if secp256k1N ≤ point.1 then 2 else 0
        if secp256k1HalfN < s then return (r, secp256k1N - s, recovery ^^^ 1) else return (r, s, recovery)

/-- `sign_digest(digest, private_key)` -/
def signDigest (digest : Bytes) (privateKey : PrivateKey) : Except Raised (ℕ × ℕ × ℕ) :=
  if digest.length ≠ 32 then .error (.driverError "secp256k1 signs exactly one 32-byte digest")
  else signWith (fromBig digest % secp256k1N) privateKey (rfc6979Nonces digest privateKey)

/-- `recover_public_key(digest, r, s, recovery)` -/
def recoverPublicKey (digest : Bytes) (r s recovery : ℕ) : Except Raised (ℕ × ℕ) :=
  if digest.length ≠ 32 ∨ ¬(0 < r ∧ r < secp256k1N) ∨ ¬(0 < s ∧ s < secp256k1N) then
    .error (.driverError "secp256k1 signature components are outside the scalar field")
  else if 3 < recovery then .error (.driverError "secp256k1 recovery id is outside 0..3")
  else
    let x := if 2 ≤ recovery then r + secp256k1N else r
    if secp256k1P ≤ x then .error (.driverError "secp256k1 recovery x coordinate is outside the field")
    else
      let alpha := (powMod x 3 secp256k1P + 7) % secp256k1P
      let beta := powMod alpha ((secp256k1P + 1) / 4) secp256k1P
      if reduced (beta * beta - alpha) ≠ 0 then .error (.driverError "secp256k1 recovery point is not on the curve")
      else
        let y := if beta &&& 1 = recovery &&& 1 then beta else secp256k1P - beta
        let message := fromBig digest % secp256k1N
        let combined := jacobianAdd (jacobianMultiply (x, y, 1) s)
          (jacobianMultiply secp256k1G ((secp256k1N - message) % secp256k1N))
        let inverse := powMod r (secp256k1N - 2) secp256k1N
        toAffine (jacobianMultiply combined inverse)

end Zkdeal.OwnerSoak
