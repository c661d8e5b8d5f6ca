import Mathlib.Data.Set.Function
import Mathlib.Data.Set.Lattice

/-! # What a step may change

`contents` reads the cell at an address off a state. A step stays *within* a set of addresses if no
cell outside it changes; a run stays within the union of what its steps stay within
(`foldl_within`), and leaves what lies outside of it alone (`Within.frame`). -/

namespace EspMid.Lib.Footprint

variable {σ A V ι : Type} {contents : σ → A → V} {s t : Set A} {x y z : σ}

/-- From `x` to `y` no cell outside `s` changes. -/
def Within (contents : σ → A → V) (s : Set A) (x y : σ) : Prop :=
  Set.EqOn (contents y) (contents x) sᶜ

theorem Within.refl (contents : σ → A → V) (s : Set A) (x : σ) : Within contents s x x :=
  Set.eqOn_refl _ _

theorem Within.mono (h : Within contents s x y) (hst : s ⊆ t) : Within contents t x y :=
  Set.EqOn.mono (Set.compl_subset_compl.mpr hst) h

theorem Within.trans (hxy : Within contents s x y) (hyz : Within contents s y z) :
    Within contents s x z :=
  Set.EqOn.trans hyz hxy

/-- **The frame.** What lies outside the set keeps its cells. -/
theorem Within.frame (h : Within contents s x y) (hst : t ⊆ sᶜ) :
    Set.EqOn (contents y) (contents x) t :=
  Set.EqOn.mono hst h

/-- **A run stays within the union** of what its steps stay within. -/
theorem foldl_within {step : σ → ι → σ} {within : ι → Set A}
    (h : ∀ x i, Within contents (within i) x (step x i)) (is : List ι) (x : σ) :
    Within contents (⋃ i ∈ is, within i) x (is.foldl step x) := by
  induction is generalizing x with
  | nil => exact Within.refl contents _ x
  | cons i is ih =>
    have hfirst : within i ⊆ ⋃ j ∈ i :: is, within j :=
      Set.subset_biUnion_of_mem (u := within) List.mem_cons_self
    have hrest : (⋃ j ∈ is, within j) ⊆ ⋃ j ∈ i :: is, within j :=
      Set.biUnion_mono (fun _ hj => List.mem_cons_of_mem i hj) fun _ _ => subset_rfl
    exact ((h x i).mono hfirst).trans ((ih (step x i)).mono hrest)

end EspMid.Lib.Footprint
