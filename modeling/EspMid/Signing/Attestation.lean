import EspMid.Signing.Canonical

/-! # What a maker attests

The attested message frames the model and the firmware behind lengths of two bytes, and cuts the
lengths to that. Two pairs have one message only where they are the same or a length wraps
(`makerMessage_eq_iff`); so a maker's signature over one pair stands for another, short of a
collision of SHA-256, exactly where the two imitate each other
(`attestation_names_one_pair_iff`). -/

namespace EspMid.Signing.Attestation

open EspMid.Lib EspMid.Lib.Framing
open EspMid.Model.Core EspMid.Model.Identity EspMid.Model.Messages
open EspMid.Signing.Canonical

variable {X : Crates} {model firmware model' firmware' : String}

/-! ### The message -/

/-- What `makerPrehash` hashes. -/
def makerMessage (model firmware : String) : Bytes :=
  MAKER_DOMAIN ++ be16 (byteLen model) ++ asBytes model ++ be16 (byteLen firmware) ++
    asBytes firmware

theorem makerPrehash_eq (X : Crates) (model firmware : String) :
    makerPrehash X model firmware = X.sha256 (makerMessage model firmware) := rfl

theorem makerMessage_eq (model firmware : String) :
    makerMessage model firmware =
      MAKER_DOMAIN ++ (framed 2 (asBytes model) ++ framed 2 (asBytes firmware)) := by
  unfold makerMessage framed byteLen be16
  simp only [List.append_assoc]

/-- The second model is the first, the length of its firmware and a part of that firmware; the rest
of it is the second firmware behind its length. Both parts are too long for their lengths. -/
def Imitates (model firmware model' firmware' : String) : Prop :=
  Wraps 2 (asBytes model) (asBytes firmware) (asBytes model') (asBytes firmware')

/-- **Two pairs have one message** only where they are the same or one imitates the other. -/
theorem makerMessage_eq_iff :
    makerMessage model firmware = makerMessage model' firmware' ↔
      (model = model' ∧ firmware = firmware') ∨ Imitates model firmware model' firmware' ∨
        Imitates model' firmware' model firmware := by
  rw [makerMessage_eq, makerMessage_eq, List.append_cancel_left_eq, framed_pair_eq_iff,
    asBytes_injective.eq_iff, asBytes_injective.eq_iff]
  rfl

theorem Imitates.length_le (h : Imitates model firmware model' firmware') :
    byteLen model + 65536 ≤ byteLen model' ∧ byteLen firmware' + 65536 ≤ byteLen firmware :=
  Wraps.length_le (by decide) h

theorem not_imitates_of_short (h : byteLen model' < 65536) :
    ¬ Imitates model firmware model' firmware' := fun himitates => by
  have hlen := himitates.length_le
  omega

/-! ### What is signed for a pair -/

/-- Two byte streams with one hash. -/
def Collides (X : Crates) (a b : Bytes) : Prop := a ≠ b ∧ X.sha256 a = X.sha256 b

/-- A pair that is not attested shares its prehash with no attested one, unless their messages
collide. -/
def Separated (X : Crates) (attested : Set (String × String)) (model firmware : String) : Prop :=
  (model, firmware) ∉ attested → ∀ p ∈ attested,
    makerPrehash X p.1 p.2 = makerPrehash X model firmware →
      Collides X (makerMessage p.1 p.2) (makerMessage model firmware)

theorem Imitates.ne (h : Imitates model firmware model' firmware') :
    ¬ (model = model' ∧ firmware = firmware') := by
  rintro ⟨rfl, -⟩
  have hlen := h.length_le
  omega

theorem imitates_iff :
    Imitates model firmware model' firmware' ∨ Imitates model' firmware' model firmware ↔
      makerMessage model firmware = makerMessage model' firmware' ∧
        ¬ (model = model' ∧ firmware = firmware') := by
  constructor
  · intro h
    refine ⟨makerMessage_eq_iff.mpr (Or.inr h), ?_⟩
    rcases h with h | h
    · exact h.ne
    · exact fun hsame => h.ne ⟨hsame.1.symm, hsame.2.symm⟩
  · rintro ⟨hmsg, hne⟩
    exact (makerMessage_eq_iff.mp hmsg).resolve_left hne

theorem message_eq_imp_iff :
    (makerMessage model firmware = makerMessage model' firmware' →
        model = model' ∧ firmware = firmware') ↔
      ¬ Imitates model firmware model' firmware' ∧ ¬ Imitates model' firmware' model firmware := by
  rw [← not_or, imitates_iff, not_and, not_not]

theorem prehash_eq_iff :
    makerPrehash X model firmware = makerPrehash X model' firmware' ↔
      makerMessage model firmware = makerMessage model' firmware' ∨
        Collides X (makerMessage model firmware) (makerMessage model' firmware') := by
  rw [makerPrehash_eq, makerPrehash_eq]
  constructor
  · exact fun h => or_iff_not_imp_left.mpr fun hne => ⟨hne, h⟩
  · rintro (h | ⟨-, h⟩)
    · rw [h]
    · exact h

theorem prehash_eq_imp_iff :
    (makerPrehash X model firmware = makerPrehash X model' firmware' →
        (model = model' ∧ firmware = firmware') ∨
          Collides X (makerMessage model firmware) (makerMessage model' firmware')) ↔
      ¬ Imitates model firmware model' firmware' ∧ ¬ Imitates model' firmware' model firmware := by
  rw [← message_eq_imp_iff, prehash_eq_iff]
  constructor
  · intro h hmsg
    rcases h (Or.inl hmsg) with hsame | hcollides
    · exact hsame
    · exact absurd hmsg hcollides.1
  · rintro h (hmsg | hcollides)
    · exact Or.inl (h hmsg)
    · exact Or.inr hcollides

theorem separated_iff {attested : Set (String × String)} :
    Separated X attested model firmware ↔
      (model, firmware) ∈ attested ∨ ∀ p ∈ attested,
        ¬ Imitates p.1 p.2 model firmware ∧ ¬ Imitates model firmware p.1 p.2 := by
  unfold Separated
  rw [or_iff_not_imp_left]
  refine imp_congr_right fun hout => forall₂_congr fun p hp => ?_
  have hne : ¬ (p.1 = model ∧ p.2 = firmware) := by
    rintro ⟨rfl, rfl⟩
    exact hout hp
  rw [← prehash_eq_imp_iff (X := X), or_iff_right hne]

theorem verifyMaker_of_imitates (h : Imitates model firmware model' firmware')
    (signature : Array8 64) (makerPubkey : Bytes) :
    verifyMaker X model firmware signature makerPubkey =
      verifyMaker X model' firmware' signature makerPubkey := by
  unfold verifyMaker
  rw [prehash_eq_iff.mpr (Or.inl (imitates_iff.mp (Or.inl h)).1)]

/-- **A maker's attestation names one model and one firmware** unless the pair imitates another or
is imitated. Two pairs share no message, and no prehash without a collision, exactly where neither
imitates the other; where one does, the same signatures are accepted for both. A pair that is not
attested keeps its prehash from the attested ones exactly where it neither imitates one of them nor
is imitated by one. -/
theorem attestation_names_one_pair_iff (X : Crates) :
    (∀ model firmware model' firmware' : String,
      (makerMessage model firmware = makerMessage model' firmware' →
          model = model' ∧ firmware = firmware') ↔
        ¬ Imitates model firmware model' firmware' ∧
          ¬ Imitates model' firmware' model firmware) ∧
      (∀ model firmware model' firmware' : String,
        (makerPrehash X model firmware = makerPrehash X model' firmware' →
            (model = model' ∧ firmware = firmware') ∨
              Collides X (makerMessage model firmware) (makerMessage model' firmware')) ↔
          ¬ Imitates model firmware model' firmware' ∧
            ¬ Imitates model' firmware' model firmware) ∧
      (∀ model firmware model' firmware' : String, Imitates model firmware model' firmware' →
        ∀ signature makerPubkey, verifyMaker X model firmware signature makerPubkey =
          verifyMaker X model' firmware' signature makerPubkey) ∧
      ∀ (attested : Set (String × String)) (model firmware : String),
        Separated X attested model firmware ↔
          (model, firmware) ∈ attested ∨ ∀ p ∈ attested,
            ¬ Imitates p.1 p.2 model firmware ∧ ¬ Imitates model firmware p.1 p.2 := by
  refine ⟨fun model firmware model' firmware' => ?_, fun model firmware model' firmware' => ?_,
    fun model firmware model' firmware' himitates => ?_, fun attested model firmware => ?_⟩
  · exact message_eq_imp_iff
  · exact prehash_eq_imp_iff
  · exact verifyMaker_of_imitates himitates
  · exact separated_iff

/-! ### A model of 65536 bytes -/

/-- `n` NUL characters. -/
def nuls (n : ℕ) : String := String.ofList (List.replicate n '\x00')

theorem asBytes_nuls (n : ℕ) : asBytes (nuls n) = List.replicate n 0 := by
  induction n with
  | zero => rfl
  | succ n ih =>
    have hcons : nuls (n + 1) = String.ofList ['\x00'] ++ nuls n := by
      unfold nuls
      rw [← String.ofList_append, List.replicate_succ, List.singleton_append]
    rw [hcons, asBytes_append, ih, List.replicate_succ]
    rfl

theorem imitates_nuls : Imitates "" (nuls 65536) (nuls 65536) "" := by
  have hzeros : List.replicate 65536 (0 : UInt8) =
      List.replicate 2 0 ++ List.replicate 65534 0 := by
    rw [← List.replicate_add]
  have hend : List.replicate 65536 (0 : UInt8) =
      List.replicate 65534 0 ++ List.replicate 2 0 := by
    rw [← List.replicate_add]
  refine ⟨List.replicate 65534 0, ?_, ?_, ?_⟩
  · rw [asBytes_nuls, List.length_replicate]
    exact hzeros
  · rw [asBytes_nuls]
    exact hend
  · rw [List.length_replicate]
    decide

/-- **The defect.** No model with a firmware of 65536 NULs, and a model of 65536 NULs with no
firmware, have one message. -/
theorem two_pairs_one_message :
    makerMessage "" (nuls 65536) = makerMessage (nuls 65536) "" ∧
      ¬ ("" = nuls 65536 ∧ nuls 65536 = "") := by
  refine ⟨makerMessage_eq_iff.mpr (Or.inr (Or.inl imitates_nuls)), ?_⟩
  rintro ⟨hempty, -⟩
  have hlen := imitates_nuls.length_le
  rw [← hempty] at hlen
  omega

/-! ### A maker of one doorbell -/

def doorbell : String := "acme/doorbell-2"

/-- What is hashed for 1.4.0. -/
def doorbellHash : Array8 32 :=
  ⟨BigEndian.ofNat 32 0x85eb8a4f007df013c5df3383ef67c4313c611882f01ede22263e4e9806ba0c29, by simp⟩

/-- What is hashed for 1.4.1. -/
def nextHash : Array8 32 :=
  ⟨BigEndian.ofNat 32 0x6938b8f3ab2430ad50a7cc37f75decac30cba890a9fd346261fd5ccf9630279c, by simp⟩

/-- The other crates, on what occurs. -/
def attesting : Crates :=
  threeKeys [(makerMessage doorbell "1.4.0", doorbellHash),
    (makerMessage doorbell "1.4.1", nextHash)] [] []

/-- The attestation of 1.4.0 is not one of 1.4.1; one of 65536 NULs as the firmware is one of as
many as the model. -/
theorem doorbell_separated :
    Separated attesting {(doorbell, "1.4.0")} doorbell "1.4.1" ∧
      ∀ signature makerPubkey, verifyMaker attesting "" (nuls 65536) signature makerPubkey =
        verifyMaker attesting (nuls 65536) "" signature makerPubkey := by
  have hpair := attestation_names_one_pair_iff attesting
  refine ⟨(hpair.2.2.2 _ _ _).mpr (Or.inr ?_), hpair.2.2.1 _ _ _ _ imitates_nuls⟩
  rintro p rfl
  exact ⟨not_imitates_of_short (by decide +kernel), not_imitates_of_short (by decide +kernel)⟩

end EspMid.Signing.Attestation
