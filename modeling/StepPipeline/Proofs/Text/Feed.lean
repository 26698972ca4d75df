import StepPipeline.Text.Feed

/-!
Decoding block by block. What a block leaves of a character goes over into the next one, so a text
that is cut short somewhere is no text as a whole; and one whose first block is refused is cut short
at its beginning. Main results: `Portions.not_isUtf8_of_isCut`, `Portions.ofBytes_of_refused`.
-/

set_option autoImplicit false
set_option relaxedAutoImplicit false

namespace StepPipeline.Text

def decodedAll (bytes : List UInt8) : Decoding :=
  bytes.foldl Decoding.push {}

/-- Bytes that make up characters, the last of which is complete. -/
def IsUtf8 (bytes : List UInt8) : Prop :=
  (decodedAll bytes).isRefused = false ∧ (decodedAll bytes).begun = none

/-! ### Bytes one by one -/

theorem Decoding.push_state {a b : Decoding} (begun : a.begun = b.begun)
    (refused : a.isRefused = b.isRefused) (byte : UInt8) :
    (a.push byte).begun = (b.push byte).begun ∧
      (a.push byte).isRefused = (b.push byte).isRefused := by
  unfold push
  rw [begun, refused]
  split
  · exact ⟨begun, refused⟩
  · dsimp only
    split <;> exact ⟨rfl, rfl⟩

theorem Decoding.foldl_state (bytes : List UInt8) {a b : Decoding} (begun : a.begun = b.begun)
    (refused : a.isRefused = b.isRefused) :
    (bytes.foldl push a).begun = (bytes.foldl push b).begun ∧
      (bytes.foldl push a).isRefused = (bytes.foldl push b).isRefused := by
  induction bytes generalizing a b with
  | nil => exact ⟨begun, refused⟩
  | cons byte rest ih =>
    obtain ⟨begun, refused⟩ := push_state begun refused byte
    exact ih begun refused

theorem Decoding.foldl_refused (bytes : List UInt8) {a : Decoding} (refused : a.isRefused = true) :
    (bytes.foldl push a).isRefused = true := by
  induction bytes generalizing a with
  | nil => exact refused
  | cons byte rest ih =>
    have stays : a.push byte = a := by rw [push, if_pos refused]
    rw [List.foldl_cons, stays]
    exact ih refused

theorem not_isUtf8_append {done rest : List UInt8}
    (refused : (decodedAll done).isRefused = true) : ¬ IsUtf8 (done ++ rest) := by
  rintro ⟨valid, _⟩
  have later : decodedAll (done ++ rest) = rest.foldl Decoding.push (decodedAll done) :=
    List.foldl_append
  rw [later, Decoding.foldl_refused _ refused] at valid
  cases valid

/-! ### Blocks -/

/-- A feed has read a part of a text and has the rest before it. -/
def Feed.Reads (bytes : List UInt8) (feed : Feed) : Prop :=
  ∃ done, bytes = done ++ feed.bytes ∧ (decodedAll done).isRefused = false ∧
    (decodedAll done).begun = feed.begun

namespace Feed

variable {bytes : List UInt8} {feed : Feed}

theorem bytes_eq_nil_of_take {wanted : Nat}
    (nothing : feed.bytes.take (feed.nextSize wanted) = []) : feed.bytes = [] := by
  have some_wanted : feed.nextSize wanted ≠ 0 :=
    Nat.ne_of_gt (Nat.lt_of_lt_of_le (by decide) (Nat.le_max_left blockSize _))
  exact (List.take_eq_nil_iff.mp nothing).resolve_left some_wanted

theorem decode?_cases (reads : feed.Reads bytes) (wanted : Nat) :
    (∃ filled, feed.decode? wanted = some filled ∧ filled.Reads bytes) ∨
      feed.decode? wanted = none ∧ ¬ IsUtf8 bytes := by
  obtain ⟨done, parts, accepted, begun⟩ := reads
  obtain ⟨block, taken⟩ : ∃ block, feed.bytes.take (feed.nextSize wanted) = block := ⟨_, rfl⟩
  have onward : block ++ feed.bytes.drop block.length = feed.bytes :=
    List.prefix_iff_eq_append.mp (taken ▸ List.take_prefix _ feed.bytes)
  have whole : bytes = (done ++ block) ++ feed.bytes.drop block.length := by
    rw [List.append_assoc, onward, parts]
  obtain ⟨same_begun, same_refused⟩ := Decoding.foldl_state block
    (a := decodedAll done) (b := { begun := feed.begun }) begun accepted
  have reached : decodedAll (done ++ block) = block.foldl Decoding.push (decodedAll done) :=
    List.foldl_append
  rw [← reached] at same_begun same_refused
  unfold decode?
  simp only [taken]
  split
  · rename_i refused
    refine .inr ⟨rfl, ?_⟩
    rw [Bool.or_eq_true, Bool.and_eq_true] at refused
    rcases refused with refused | ⟨empty, owing⟩
    · rw [whole]
      exact not_isUtf8_append (same_refused.trans refused)
    · rintro ⟨_, complete⟩
      have ended : feed.bytes = [] :=
        bytes_eq_nil_of_take (taken.trans (List.isEmpty_iff.mp empty))
      rw [parts, ended, List.append_nil, begun] at complete
      rw [List.isEmpty_iff.mp empty, List.foldl_nil, complete] at owing
      cases owing
  · rename_i accepted
    rw [Bool.or_eq_true, not_or, Bool.not_eq_true] at accepted
    exact .inl ⟨_, rfl, done ++ block, whole, same_refused.trans accepted.1, same_begun⟩

theorem fill?_cases (count fuel : Nat) (reads : feed.Reads bytes) :
    (∃ filled, fill? count fuel feed = some filled ∧ filled.Reads bytes) ∨
      fill? count fuel feed = none ∧ ¬ IsUtf8 bytes := by
  induction fuel generalizing feed with
  | zero => exact .inl ⟨feed, rfl, reads⟩
  | succ fuel ih =>
    rw [fill?]
    split
    · exact .inl ⟨feed, rfl, reads⟩
    · rcases decode?_cases reads (count - feed.ready.length) with
        ⟨filled, decoded, still⟩ | ⟨cut, invalid⟩
      · rw [decoded, Option.bind_eq_bind, Option.bind_some]
        split
        · exact .inl ⟨filled, rfl, still⟩
        · exact ih still
      · rw [cut]
        exact .inr ⟨rfl, invalid⟩

theorem portion?_cases (reads : feed.Reads bytes) :
    (∃ portion rest, feed.portion? = some (portion, rest) ∧ rest.Reads bytes) ∨
      feed.portion? = none ∧ ¬ IsUtf8 bytes := by
  unfold portion?
  rcases fill?_cases portionSize (feed.bytes.length + 2) reads with
    ⟨filled, found, still⟩ | ⟨cut, invalid⟩
  · rw [found]
    exact .inl ⟨_, _, rfl, still⟩
  · rw [cut]
    exact .inr ⟨rfl, invalid⟩

end Feed

/-! ### Portions -/

namespace Portions

variable {bytes : List UInt8}

theorem not_isUtf8_of_rest (fuel : Nat) {feed : Feed} (reads : feed.Reads bytes)
    (cut : (rest fuel feed).isCut = true) : ¬ IsUtf8 bytes := by
  induction fuel generalizing feed with
  | zero => cases cut
  | succ fuel ih =>
    rcases Feed.portion?_cases reads with ⟨portion, onward, found, still⟩ | ⟨_, invalid⟩
    · simp only [rest, found] at cut
      split at cut
      · cases cut
      · exact ih still cut
    · exact invalid

/-- Where a text is cut short, its bytes are not those of a text. -/
theorem not_isUtf8_of_isCut (cut : (ofBytes bytes).isCut = true) : ¬ IsUtf8 bytes := by
  have begins : Feed.Reads bytes { bytes } := ⟨[], rfl, rfl, rfl⟩
  refine not_isUtf8_of_rest (bytes.length + 1) begins ?_
  unfold ofBytes at cut
  split at cut
  · rename_i found
    rw [found]
    exact cut
  · rename_i found
    rw [found]
  · exact cut

theorem ofBytes_of_refused (refused : (decodedAll (bytes.take blockSize)).isRefused = true) :
    ofBytes bytes = ⟨[], true⟩ := by
  have size : ({ bytes } : Feed).nextSize (portionSize - 0) = blockSize := by
    simp [Feed.nextSize]
  have stops : ({ bytes } : Feed).decode? (portionSize - 0) = none := by
    unfold Feed.decode?
    simp only [size]
    rw [if_pos]
    rw [Bool.or_eq_true]
    exact .inl refused
  have nothing : ({ bytes } : Feed).portion? = none := by
    have wanted : ¬ portionSize ≤ ({ bytes } : Feed).ready.length :=
      Nat.not_le.mpr (Nat.succ_pos 4095)
    rw [Feed.portion?, Feed.fill?, if_neg wanted]
    simp only [List.length_nil, stops]
    rfl
  rw [ofBytes, rest, nothing]

end Portions

end StepPipeline.Text
