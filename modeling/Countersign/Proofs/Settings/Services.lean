import Countersign.Proofs.Text.Cutting
import Countersign.Proofs.Text.Firsts
import Countersign.Proofs.Text.Trimming
import Countersign.Settings
/-! The names of services in a value: what is read of it is a list of clean names, each of
which stands there once, and such a list is read back from the value that joins its names. -/

namespace Countersign.Settings

open Text (Firsts distinct join lower pieces trim)

variable {raw n : Text} {services : List Text}

/-- The names between commas that are not blank, trimmed and in small letters. -/
def listed (raw : Text) : List Text :=
  ((pieces ',' raw).map fun n => lower (trim n)).filter (· ≠ [])

/-- A name that stands between commas just as it is read. -/
structure CleanName (n : Text) : Prop where
  filled : n ≠ []
  trimmed : Text.Trimmed n
  whole : ',' ∉ n
  small : ∀ c ∈ n, c.isUpper = false

/-- What is read of a value that lists services. -/
structure ListedBy (raw : Text) (services : List Text) : Prop where
  nonempty : services ≠ []
  nodup : services.Nodup
  clean : ∀ n ∈ services, CleanName n
  /-- In the order in which the names first stand in the value; where it is blank, `s3`. -/
  order : Firsts (listed raw) services ∨ listed raw = [] ∧ services = ["s3".toList]

theorem cleanName_s3 : CleanName "s3" where
  filled := by decide
  trimmed := by constructor <;> (rintro _ ⟨⟩; decide)
  whole := by decide
  small := by simp

theorem clean_of_listed (h : n ∈ listed raw) : CleanName n := by
  obtain ⟨hmem, hfilled⟩ := List.mem_filter.1 h
  obtain ⟨q, hq, rfl⟩ := List.mem_map.1 hmem
  have hcomma : ',' ∉ q := Text.freeOf_beq.1 (Text.freeOf_of_mem_piecesBy hq)
  exact {
    filled := by simpa using hfilled
    trimmed := (Text.trimmed_trim q).lower
    whole := Text.not_mem_lower (by decide) fun hmem => hcomma (Text.mem_of_mem_trim hmem)
    small := by
      intro c hc
      obtain ⟨d, -, rfl⟩ := List.mem_map.1 hc
      exact Text.isUpper_toLower d }

theorem readServices_eq (raw : Text) :
    readServices raw = if listed raw = [] then ["s3".toList] else distinct (listed raw) := by
  have hnone : distinct (listed raw) = [] ↔ listed raw = [] := Text.distinct_eq_nil
  unfold readServices
  dsimp only
  split
  · next h => rw [if_pos (hnone.1 h)]
  · next n ns h =>
    rw [if_neg fun hnil => List.cons_ne_nil n ns (h.symm.trans (hnone.2 hnil))]
    exact h.symm

theorem listedBy_readServices (raw : Text) : ListedBy raw (readServices raw) := by
  rw [readServices_eq]
  split
  · next hnone =>
    exact {
      nonempty := List.cons_ne_nil _ _
      nodup := List.pairwise_singleton _ _
      clean := fun n hn => List.mem_singleton.1 hn ▸ cleanName_s3
      order := .inr ⟨hnone, rfl⟩ }
  · next hsome =>
    have hfirsts := Text.firsts_distinct (listed raw)
    obtain ⟨n, hn⟩ := List.exists_mem_of_ne_nil _ hsome
    exact {
      nonempty := List.ne_nil_of_mem ((hfirsts.mem_iff n).2 hn)
      nodup := hfirsts.nodup
      clean := fun n hn => clean_of_listed ((hfirsts.mem_iff n).1 hn)
      order := .inl hfirsts }

/-- Clean names that are joined are listed as they are. -/
theorem listed_join (hne : services ≠ []) (h : ∀ n ∈ services, CleanName n) :
    listed (join "," services) = services := by
  have hpieces : pieces ',' (join "," services) = services :=
    Text.pieces_join hne fun n hn => (h n hn).whole
  have hread : services.map (fun n => lower (trim n)) = services := by
    refine (List.map_congr_left fun n hn => ?_).trans (List.map_id services)
    rw [Text.trim_of_trimmed (h n hn).trimmed, Text.lower_of_small (h n hn).small, id]
  rw [listed, hpieces, hread, List.filter_eq_self]
  intro n hn
  simpa using (h n hn).filled

theorem readServices_join (h : ListedBy raw services) :
    readServices (join "," services) = services := by
  rw [readServices_eq, listed_join h.nonempty h.clean, if_neg h.nonempty,
    Text.distinct_of_nodup h.nodup]

end Countersign.Settings
