import Blindjoin.Externals

/-!
# Blind tokens

The message of a blind token commits to the output it will be redeemed for: the
hash of a domain tag, the script of the output and its amount. The coordinator
signs a blinded form of it when an input is registered, and recomputes it from
the requested output when the token is redeemed.
-/

namespace Blindjoin

/-- The eight bytes of a `u64`, least significant first. -/
def leBytes64 (n : ℕ) : Bytes := (List.range 8).map fun i => UInt8.ofNat (n / 256 ^ i)

/-- The four bytes of a `u32`, least significant first. -/
def leBytes32 (n : UInt32) : Bytes := (List.range 4).map fun i => UInt8.ofNat (n.toNat / 256 ^ i)

/-- **The four bytes determine the number.** -/
theorem leBytes32_injective : Function.Injective leBytes32 := by
  intro m n h
  have hbyte : ∀ i < 4, m.toNat / 256 ^ i % 256 = n.toNat / 256 ^ i % 256 := by
    intro i hi
    have hget := congrArg (fun bs : Bytes => bs[i]?.map UInt8.toNat) h
    simpa [leBytes32, hi] using hget
  have h0 := hbyte 0 (by decide)
  have h1 := hbyte 1 (by decide)
  have h2 := hbyte 2 (by decide)
  have h3 := hbyte 3 (by decide)
  have hm := m.toNat_lt
  have hn := n.toNat_lt
  exact UInt32.toNat_inj.mp (by omega)

/-- Compute the blind token message for an output. -/
def computeBlindTokenMessage (E : Externals) (outputScript : Script) (amountSats : ℕ) : Bytes32 :=
  E.sha256 (utf8 "blindjoin-v1" ++ outputScript ++ leBytes64 amountSats)

end Blindjoin
