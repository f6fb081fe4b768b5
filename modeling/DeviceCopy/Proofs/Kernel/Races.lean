import DeviceCopy.Proofs.Kernel.Interleaving
import DeviceCopy.Proofs.Kernel.Programs

/-!
# Launches without races

A byte of the destination belongs to the word or to the element it lies in, and both have one owner.
So the threads of a launch that does not fault write separate bytes, each of them once. They read
inside the source only, where nobody writes. Hence the order in which the accesses of the grid come
makes no difference: `Launch.schedule_independent`.

The bytes written are known exactly (`Launch.mem_writes_iff`): the words in reach of the grid, and
the elements past the last whole word.
-/

set_option autoImplicit false

namespace DeviceCopy

/-! ## From indices to bytes -/

/-- Separate spans of one width have separate bytes. -/
theorem Span.nodup_flatMap_bytes {width : Nat} (hw : 0 < width) {indices : List Nat}
    (h : indices.Nodup) : ((indices.map (Span.mk width)).flatMap Span.bytes).Nodup := by
  rw [List.flatMap_map, List.nodup_flatMap]
  refine ⟨fun i _ => List.nodup_range', ?_⟩
  refine h.pairwise_of_forall_ne ?_
  intro i _ j _ hne b hi hj
  have hfirst := (Span.mem_bytes_iff_div hw).mp hi
  have hsecond := (Span.mem_bytes_iff_div hw).mp hj
  exact hne (hfirst.symm.trans hsecond)

theorem Span.mem_flatMap_bytes {width : Nat} (hw : 0 < width) {indices : List Nat} {b : Nat} :
    b ∈ (indices.map (Span.mk width)).flatMap Span.bytes ↔ b / width ∈ indices := by
  rw [List.flatMap_map, List.mem_flatMap]
  constructor
  · rintro ⟨i, hi, hb⟩
    rw [(Span.mem_bytes_iff_div hw).mp hb]
    exact hi
  · intro h
    exact ⟨b / width, h, (Span.mem_bytes_iff_div hw).mpr rfl⟩

namespace Kernel

variable {kernel : Kernel} {g : Geometry} {n rank b : Nat}

theorem wideWordBytes_pos : 0 < wideWordBytes := by decide

/-- Whole words and the elements past them have no byte in common. -/
theorem not_word_and_element (hword : b / wideWordBytes < kernel.wordReach n g)
    (helement : kernel.restStart n ≤ b / kernel.dtype.size) : False := by
  have hreach : kernel.wordReach n g ≤ kernel.wordCount n := by
    cases kernel with
    | scalar dtype => exact Nat.le_refl _
    | vector dtype => exact Nat.le_refl _
    | blocked sweep factor =>
      cases sweep with
      | singlePass => exact Nat.min_le_left _ _
      | gridStride => exact Nat.le_refl _
  have hbelow : b < kernel.wordCount n * wideWordBytes :=
    (Nat.div_lt_iff_lt_mul wideWordBytes_pos).mp (Nat.lt_of_lt_of_le hword hreach)
  have habove : kernel.restStart n * kernel.dtype.size ≤ b :=
    (Nat.le_div_iff_mul_le kernel.dtype.size_pos).mp helement
  have hsame : kernel.restStart n * kernel.dtype.size = kernel.wordCount n * wideWordBytes := by
    rw [restStart, Nat.mul_assoc, kernel.dtype.lanes_mul_size]
  omega

/-- The bytes a thread writes are those of the words and of the elements it owns. -/
theorem mem_writes_program (hk : kernel.HasSlots) (h : rank < g.threadCount)
    (hfault : (kernel.program n (g.thread rank)).fault = none) :
    b ∈ (kernel.program n (g.thread rank)).writes ↔
      (b / wideWordBytes < kernel.wordReach n g ∧
        kernel.wordOwner g (b / wideWordBytes) = rank) ∨
      ((kernel.restStart n ≤ b / kernel.dtype.size ∧ b / kernel.dtype.size < n) ∧
        kernel.elementOwner n g (b / kernel.dtype.size) = rank) := by
  rw [Program.writes_eq, stores_program hfault, List.flatMap_append, List.mem_append,
    Span.mem_flatMap_bytes wideWordBytes_pos, Span.mem_flatMap_bytes kernel.dtype.size_pos,
    mem_wordIndices hk h, mem_elementIndices h]

/-- No thread writes a byte twice. -/
theorem nodup_writes_program (hk : kernel.HasSlots) (h : rank < g.threadCount)
    (hfault : (kernel.program n (g.thread rank)).fault = none) :
    (kernel.program n (g.thread rank)).writes.Nodup := by
  rw [Program.writes_eq, stores_program hfault, List.flatMap_append]
  refine List.Nodup.append ?_ ?_ ?_
  · exact Span.nodup_flatMap_bytes wideWordBytes_pos (nodup_wordIndices hk h)
  · exact Span.nodup_flatMap_bytes kernel.dtype.size_pos (nodup_elementIndices h)
  · intro b hword helement
    rw [Span.mem_flatMap_bytes wideWordBytes_pos, mem_wordIndices hk h] at hword
    rw [Span.mem_flatMap_bytes kernel.dtype.size_pos, mem_elementIndices h] at helement
    exact not_word_and_element hword.1 helement.1.1

/-- No two threads write one byte. -/
theorem writes_program_unique {other : Nat} (hk : kernel.HasSlots) (h : rank < g.threadCount)
    (ho : other < g.threadCount) (hfault : (kernel.program n (g.thread rank)).fault = none)
    (hfaultOther : (kernel.program n (g.thread other)).fault = none)
    (hb : b ∈ (kernel.program n (g.thread rank)).writes)
    (hbOther : b ∈ (kernel.program n (g.thread other)).writes) : rank = other := by
  rw [mem_writes_program hk h hfault] at hb
  rw [mem_writes_program hk ho hfaultOther] at hbOther
  -- A byte in a word has the owner of the word, one past the words that of its element.
  rcases hb with ⟨hword, howner⟩ | ⟨helement, howner⟩
  · rcases hbOther with ⟨-, howner'⟩ | ⟨helement', -⟩
    · exact howner.symm.trans howner'
    · exact (not_word_and_element hword helement'.1).elim
  · rcases hbOther with ⟨hword', -⟩ | ⟨-, howner'⟩
    · exact (not_word_and_element hword' helement.1).elim
    · exact howner.symm.trans howner'

end Kernel

namespace Launch

/-- Bytes of the source, and as many of the destination, that a launch is about. -/
def extent (l : Launch) : Nat := l.count * l.kernel.dtype.size

/-- Source and destination of a launch have no byte in common. -/
def Disjoint (l : Launch) : Prop := Block.Apart ⟨l.src, l.extent⟩ ⟨l.dst, l.extent⟩

instance (l : Launch) : Decidable l.Disjoint := inferInstanceAs (Decidable (Block.Apart _ _))

/-- No thread of a launch faults. -/
def Sound (l : Launch) : Prop :=
  ∀ rank, rank < l.geometry.threadCount → (l.programAt rank).fault = none

/-- Addresses the thread of a given rank reads, in order. -/
def readsAt (l : Launch) (rank : Nat) : List Nat := (l.programAt rank).reads.map (l.src + ·)

/-- Addresses the thread of a given rank writes, in order. -/
def writesAt (l : Launch) (rank : Nat) : List Nat := (l.programAt rank).writes.map (l.dst + ·)

/-- Every address is written by one thread at most and once at most, and no thread reads what any
thread writes. -/
structure RaceFree (l : Launch) : Prop where
  once : ∀ rank, rank < l.geometry.threadCount → (l.writesAt rank).Nodup
  separate : ∀ rank other, rank < l.geometry.threadCount → other < l.geometry.threadCount →
    rank ≠ other → (l.writesAt rank).Disjoint (l.writesAt other)
  unread : ∀ rank other, rank < l.geometry.threadCount → other < l.geometry.threadCount →
    (l.readsAt rank).Disjoint (l.writesAt other)

variable {l : Launch}

theorem copies_programAt (hk : l.kernel.HasSlots) {rank : Nat}
    (h : rank < l.geometry.threadCount) : (l.programAt rank).Copies l.extent :=
  Kernel.copies_program hk h

theorem raceFree (hk : l.kernel.HasSlots) (hsound : l.Sound) (hapart : l.Disjoint) :
    l.RaceFree := by
  refine ⟨?_, ?_, ?_⟩
  · intro rank h
    refine List.Nodup.map ?_ (Kernel.nodup_writes_program hk h (hsound rank h))
    intro a b hab
    simpa using hab
  · intro rank other h ho hne a ha hb
    rcases List.mem_map.mp ha with ⟨b, hwrite, rfl⟩
    rcases List.mem_map.mp hb with ⟨b', hwrite', hsame⟩
    have hbyte : b' = b := by simpa using hsame
    subst hbyte
    exact hne (Kernel.writes_program_unique hk h ho (hsound rank h) (hsound other ho)
      hwrite hwrite')
  · intro rank other h ho a ha hb
    rcases List.mem_map.mp ha with ⟨read, hread, rfl⟩
    rcases List.mem_map.mp hb with ⟨written, hwrite, hsame⟩
    -- Both accesses stay inside the extent, and the two ranges are apart.
    have hreadInside : read < l.extent := by
      rcases List.mem_flatMap.mp hread with ⟨action, haction, hbyte⟩
      have hinside := (copies_programAt hk h).inside action haction
      cases action with
      | load slot span =>
        have hspan := Span.mem_bytes.mp hbyte
        exact Nat.lt_of_lt_of_le hspan.2 hinside
      | store slot span => cases hbyte
    have hwriteInside : written < l.extent := by
      rcases List.mem_flatMap.mp hwrite with ⟨action, haction, hbyte⟩
      have hinside := (copies_programAt hk ho).inside action haction
      cases action with
      | load slot span => cases hbyte
      | store slot span =>
        have hspan := Span.mem_bytes.mp hbyte
        exact Nat.lt_of_lt_of_le hspan.2 hinside
    have haddress : l.dst + written = l.src + read := hsame
    rcases hapart with hbefore | hafter
    · simp only at hbefore
      omega
    · simp only at hafter
      omega

/-- Threads of a copy that does not fault write separate bytes and read none that is written. So the
order in which the loads and stores of the whole grid come does not show in memory: it ends up as
after running the threads one after another. -/
theorem schedule_independent (hk : l.kernel.HasSlots) (hsound : l.Sound) (hapart : l.Disjoint) :
    l.RaceFree ∧
      ∀ order, l.Interleaving order → ∀ (m : Memory) (a : Nat),
        ((Machine.start m).exec l.src l.dst order).memory.get a = (l.run m).1.get a := by
  refine ⟨raceFree hk hsound hapart, ?_⟩
  intro order horder m a
  have hcopies : ∀ rank, rank < l.geometry.threadCount → (l.programAt rank).Copies l.extent :=
    fun rank h => copies_programAt hk h
  rw [horder.get_exec hcopies hapart, get_run hcopies hsound hapart]

/-- A looping staged launch of four threads over nine whole words and one float. -/
theorem schedule_independent_looped :
    let l : Launch :=
      { kernel := .blocked .gridStride 2, geometry := ⟨2, 2, 0⟩, count := 37, src := 64, dst := 256 }
    l.kernel.HasSlots ∧ l.Sound ∧ l.Disjoint ∧ l.RaceFree ∧
      ∀ order, l.Interleaving order → ∀ (m : Memory) (a : Nat),
        ((Machine.start m).exec l.src l.dst order).memory.get a = (l.run m).1.get a := by
  intro l
  have hk : l.kernel.HasSlots := by decide
  have hsound : l.Sound := fun rank h => Kernel.fault_program hk h (by decide)
  have hapart : l.Disjoint := by decide
  exact ⟨hk, hsound, hapart, schedule_independent hk hsound hapart⟩

/-! ## The bytes a launch writes -/

/-- A launch writes the words in reach of its grid and the elements past the last whole word. -/
theorem mem_writes_iff (hk : l.kernel.HasSlots) (hg : 0 < l.geometry.threadCount)
    (hsound : l.Sound) {b : Nat} :
    b ∈ l.writes ↔
      b / wideWordBytes < l.kernel.wordReach l.count l.geometry ∨
        (l.kernel.restStart l.count ≤ b / l.kernel.dtype.size ∧
          b / l.kernel.dtype.size < l.count) := by
  constructor
  · intro hb
    rcases List.mem_flatMap.mp hb with ⟨rank, hrank, hwrite⟩
    have h := List.mem_range.mp hrank
    rcases (Kernel.mem_writes_program hk h (hsound rank h)).mp hwrite with ⟨hword, -⟩ | ⟨hrest, -⟩
    · exact Or.inl hword
    · exact Or.inr hrest
  · rintro (hword | hrest)
    · have h := Kernel.wordOwner_lt hk hg hword
      exact List.mem_flatMap.mpr ⟨_, List.mem_range.mpr h,
        (Kernel.mem_writes_program hk h (hsound _ h)).mpr (Or.inl ⟨hword, rfl⟩)⟩
    · have h : l.kernel.elementOwner l.count l.geometry (b / l.kernel.dtype.size) <
          l.geometry.threadCount := Kernel.elementOwner_lt hg
      exact List.mem_flatMap.mpr ⟨_, List.mem_range.mpr h,
        (Kernel.mem_writes_program hk h (hsound _ h)).mpr (Or.inr ⟨hrest, rfl⟩)⟩

/-- A launch whose grid reaches every word writes every byte of the copy and no other. -/
theorem mem_writes_iff_lt (hk : l.kernel.HasSlots) (hg : 0 < l.geometry.threadCount)
    (hsound : l.Sound)
    (hreach : l.kernel.wordReach l.count l.geometry = l.kernel.wordCount l.count) {b : Nat} :
    b ∈ l.writes ↔ b < l.extent := by
  have hwhole : l.kernel.restStart l.count * l.kernel.dtype.size =
      l.kernel.wordCount l.count * wideWordBytes := by
    rw [Kernel.restStart, Nat.mul_assoc, l.kernel.dtype.lanes_mul_size]
  have hpart : l.kernel.restStart l.count * l.kernel.dtype.size ≤ l.extent :=
    Nat.mul_le_mul_right _ (Kernel.restStart_le l.count l.kernel)
  rw [mem_writes_iff hk hg hsound, hreach, Nat.div_lt_iff_lt_mul Kernel.wideWordBytes_pos,
    Nat.div_lt_iff_lt_mul l.kernel.dtype.size_pos, Nat.le_div_iff_mul_le l.kernel.dtype.size_pos]
  unfold extent at hpart ⊢
  omega

end Launch

end DeviceCopy
