import EspMid.Adopting.Presented

/-! # What the check pins is under the signature

The check reads the owner, the key and the roster version from the payload of the `jws` and from the
content whose hash the payload declares. Two containers with the same `jws` text therefore pin the
same, or their contents are two texts with one SHA-256 hash (`pinned_by_jws`): no other member of
the container, and no other content, has a say in whom the device pins. -/

namespace EspMid.Adopting.SignedContent

open EspMid.Lib
open EspMid.Model.Core EspMid.Model.Identity EspMid.Model.Envelope EspMid.Model.SettingsAdoption
open EspMid.Adopting.Presented

variable {X : Crates} {myDid : String}

/-- A text member of a container. -/
def member (X : Crates) (container : Bytes) (key : String) : Option String :=
  (X.jsonFromSlice container).bind fun outer => outer.text key

/-- Two different texts with one hash. -/
def Collide (X : Crates) (s t : String) : Prop :=
  s ≠ t ∧ X.sha256 (asBytes s) = X.sha256 (asBytes t)

/-- The payload of a `jws`: its second part, decoded and parsed. -/
def PayloadOf (X : Crates) (jws : String) (payload : Value) : Prop :=
  ∃ h p s b, split jws '.' = [h, p, s] ∧ b64 p = some b ∧ X.jsonFromSlice b = some payload

theorem b64Encode_injective : Function.Injective b64Encode := by
  intro a b h
  have ha := b64_encode a
  rw [h, b64_encode] at ha
  exact (Option.some.inj ha).symm

theorem payloadOf_unique {jws : String} {payload payload' : Value} (h : PayloadOf X jws payload)
    (h' : PayloadOf X jws payload') : payload = payload' := by
  obtain ⟨_, p, _, b, hsplit, hb, hp⟩ := h
  obtain ⟨_, p', _, b', hsplit', hb', hp'⟩ := h'
  have hparts := hsplit.symm.trans hsplit'
  simp only [List.cons.injEq] at hparts
  obtain ⟨-, rfl, -⟩ := hparts
  have hbytes := hb.symm.trans hb'
  cases hbytes
  exact Option.some.inj (hp.symm.trans hp')

section Passes
variable {container : Bytes} {k : Checked} {content jws : String} {payload body : Value}

theorem member_content (h : Passes X container myDid k content jws payload body) :
    member X container "content" = some content := by
  obtain ⟨outer, houter, hcontent, -⟩ := h.container
  unfold member
  rw [houter]
  exact hcontent

theorem member_jws (h : Passes X container myDid k content jws payload body) :
    member X container "jws" = some jws := by
  obtain ⟨outer, houter, -, hjws⟩ := h.container
  unfold member
  rw [houter]
  exact hjws

theorem payloadOf_passes (h : Passes X container myDid k content jws payload body) :
    PayloadOf X jws payload := by
  obtain ⟨h', p, s, -, pb, -, -, hsplit, -, ⟨hp, hpayload⟩, -⟩ := h.parts
  exact ⟨h', p, s, pb, hsplit, hp, hpayload⟩

/-- The payload and the content decide the result. -/
theorem checked_unique {container' : Bytes} {k' : Checked} {jws' : String} {body' : Value}
    (h : Passes X container myDid k content jws payload body)
    (h' : Passes X container' myDid k' content jws' payload body') : k = k' := by
  have howner : k.ownerDid = k'.ownerDid := Option.some.inj (h.issuer.symm.trans h'.issuer)
  have hbody : body = body' := Option.some.inj (h.content.symm.trans h'.content)
  subst hbody
  obtain ⟨v, hv, -, hroster⟩ := h.roster
  obtain ⟨v', hv', -, hroster'⟩ := h'.roster
  have hversion : v = v' := Option.some.inj (hv.symm.trans hv')
  obtain ⟨d, hd, hkey⟩ := h.key
  obtain ⟨d', hd', hkey'⟩ := h'.key
  have hdid : d = d' := by
    rw [howner, hd'] at hd
    exact (Except.ok.inj hd).symm
  obtain ⟨owner, pubkey, roster⟩ := k
  obtain ⟨owner', pubkey', roster'⟩ := k'
  simp only at howner hroster hroster' hkey hkey'
  rw [howner, hroster, hroster', hversion, ← hkey, ← hkey', hdid]

/-- Under one payload, two contents are equal or have one hash. -/
theorem content_unique {container' : Bytes} {k' : Checked} {content' jws' : String} {body' : Value}
    (h : Passes X container myDid k content jws payload body)
    (h' : Passes X container' myDid k' content' jws' payload body') :
    content = content' ∨ Collide X content content' := by
  have hhash := b64Encode_injective (Option.some.inj (h.hash.symm.trans h'.hash))
  have hsha : X.sha256 (asBytes content) = X.sha256 (asBytes content') :=
    List.Vector.toList_injective hhash
  by_cases heq : content = content'
  · exact Or.inl heq
  · exact Or.inr ⟨heq, hsha⟩

end Passes

/-- **What is pinned is bound by the `jws`.** Two containers that pass the check with the same `jws`
have the same content and the same result, or their contents collide under SHA-256. The owner of an
accepted container is the issuer of the payload and names the pinned key, and the content the
payload hashes names the device. -/
theorem pinned_by_jws (X : Crates) (myDid : String) :
    (∀ c₁ c₂ k₁ k₂, checkStatement X c₁ myDid = .ok k₁ → checkStatement X c₂ myDid = .ok k₂ →
        member X c₁ "jws" = member X c₂ "jws" →
          (member X c₁ "content" = member X c₂ "content" ∧ k₁ = k₂) ∨
            ∃ s t, member X c₁ "content" = some s ∧ member X c₂ "content" = some t ∧
              Collide X s t) ∧
      ∀ c k, checkStatement X c myDid = .ok k →
        ∃ content jws payload body, member X c "content" = some content ∧
          member X c "jws" = some jws ∧ PayloadOf X jws payload ∧
          payload.text "iss" = some k.ownerDid ∧
          payload.text "content_hash" = some (b64Encode (X.sha256 (asBytes content)).toList) ∧
          X.jsonFromStr content = some body ∧ body.text "device_did" = some myDid ∧
          ∃ d : Did X, Did.parse k.ownerDid = .ok d ∧ d.pubkey = k.pin.genesisPubkey := by
  refine ⟨fun c₁ c₂ k₁ k₂ h₁ h₂ hjws => ?_, fun c k h => ?_⟩
  · obtain ⟨content₁, jws₁, payload₁, body₁, p₁⟩ := passes_of_check h₁
    obtain ⟨content₂, jws₂, payload₂, body₂, p₂⟩ := passes_of_check h₂
    rw [member_jws p₁, member_jws p₂] at hjws
    cases hjws
    have hpayload := payloadOf_unique (payloadOf_passes p₁) (payloadOf_passes p₂)
    subst hpayload
    rw [member_content p₁, member_content p₂]
    rcases content_unique p₁ p₂ with heq | hcollide
    · subst heq
      exact Or.inl ⟨rfl, checked_unique p₁ p₂⟩
    · exact Or.inr ⟨content₁, content₂, rfl, rfl, hcollide⟩
  · obtain ⟨content, jws, payload, body, p⟩ := passes_of_check h
    exact ⟨content, jws, payload, body, member_content p, member_jws p, payloadOf_passes p,
      p.issuer, p.hash, p.content, p.device, p.key⟩

end EspMid.Adopting.SignedContent
