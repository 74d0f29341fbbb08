import OpenElp.Data.Table

/-!
# The Pearson hash (`pearson.c`)

`proxy_worker_func` files a client under the bucket `clients_by_call[hash]` of its callsign,
`hash = pearson_get(callsign, strlen(callsign))`.  `pearson_get` starts from the length modulo
256 and mixes in one byte at a time, `ret = permutation_table[ret ^ *data++]`.  The table,
"chosen by fair dice roll", holds every byte once (`permutationTable_bijective`, checked on the
bitmask of its entries), so each step is injective in `ret` and separates any two bytes.

* `pearsonStep_injective`, `pearsonStep_ne` : a step keeps two values of `ret` apart, and
  separates two bytes;
* `pearson_sensitive` : **two byte strings of one length that differ in exactly one place hash
  to different buckets**.
-/

namespace OpenElp

/-- `permutation_table[256]`. -/
def permutationTable : List UInt8 := [
  5, 42, 6, 37, 103, 84, 75, 83,
  219, 54, 116, 223, 192, 239, 163, 154,
  114, 189, 206, 105, 92, 76, 162, 225,
  158, 125, 74, 234, 160, 29, 153, 198,
  132, 34, 93, 86, 161, 159, 181, 66,
  197, 82, 204, 59, 237, 134, 36, 57,
  95, 39, 90, 32, 150, 217, 30, 202,
  174, 89, 38, 216, 117, 52, 169, 232,
  43, 254, 126, 222, 170, 129, 49, 207,
  73, 138, 120, 25, 27, 190, 100, 229,
  172, 67, 199, 210, 214, 218, 62, 18,
  97, 63, 101, 7, 20, 187, 131, 179,
  188, 247, 135, 68, 195, 71, 85, 144,
  107, 241, 182, 231, 98, 60, 245, 91,
  119, 87, 12, 51, 146, 96, 47, 45,
  22, 40, 1, 205, 88, 215, 141, 108,
  139, 23, 133, 78, 61, 21, 72, 226,
  183, 53, 106, 173, 224, 31, 44, 80,
  104, 167, 145, 81, 46, 10, 244, 193,
  246, 55, 112, 19, 58, 176, 221, 255,
  209, 196, 147, 14, 127, 79, 111, 157,
  249, 26, 177, 168, 212, 69, 13, 115,
  238, 227, 180, 33, 230, 109, 228, 121,
  142, 156, 28, 64, 110, 118, 165, 184,
  3, 149, 128, 203, 220, 186, 50, 213,
  171, 201, 164, 242, 191, 11, 152, 178,
  252, 194, 123, 48, 2, 130, 24, 124,
  113, 248, 251, 137, 253, 208, 99, 136,
  166, 0, 65, 4, 185, 15, 250, 235,
  16, 9, 200, 211, 35, 175, 70, 155,
  243, 240, 143, 122, 236, 233, 8, 148,
  102, 56, 77, 41, 94, 140, 17, 151]

theorem length_permutationTable : permutationTable.length = 256 := by decide +kernel

/-- The table holds every byte: the bitmask of its entries has all 256 bits set. -/
theorem bitmask_permutationTable : bitmask (permutationTable.map UInt8.toNat) = 2 ^ 256 - 1 := by
  decide +kernel

/-- One pass of the `do`/`while` loop: `ret = permutation_table[ret ^ *data++]`.  The index is
a byte, inside the table. -/
def pearsonStep (ret b : UInt8) : UInt8 := permutationTable.getD (ret ^^^ b).toNat 0

/-- `pearson_get(data, data_len)`, `data_len` being the length of `data`. -/
def pearsonGet (data : List UInt8) : UInt8 :=
  if data.length = 0 then 0 else data.foldl pearsonStep (data.length % 256).toUInt8

/-- **The table is a permutation of the bytes**: every byte is in it, and a table of 256 bytes
that holds them all holds each once. -/
theorem permutationTable_bijective :
    Function.Bijective fun x : UInt8 => permutationTable.getD x.toNat 0 := by
  have hsurj : Function.Surjective fun x : UInt8 => permutationTable.getD x.toNat 0 := by
    intro y
    have hmem : y.toNat ∈ permutationTable.map UInt8.toNat :=
      mem_of_bitmask_eq bitmask_permutationTable y.toNat_lt
    obtain ⟨z, hz, hzy⟩ := List.mem_map.1 hmem
    obtain ⟨i, hi, rfl⟩ := List.mem_iff_getElem.1 hz
    have hi256 : i < 256 := length_permutationTable ▸ hi
    refine ⟨i.toUInt8, ?_⟩
    simp only
    rw [UInt8.toNat_ofNat_of_lt' hi256, List.getD_eq_getElem _ _ hi]
    exact UInt8.toNat_inj.1 hzy
  exact ⟨Finite.injective_iff_surjective.2 hsurj, hsurj⟩

/-- A step is injective in `ret`: `ret ^ byte` is, and so is the table. -/
theorem pearsonStep_injective (b : UInt8) : Function.Injective (pearsonStep · b) := by
  intro r r' h
  exact (UInt8.xor_left_inj b).1 (permutationTable_bijective.1 h)

/-- A step separates two bytes. -/
theorem pearsonStep_ne (ret : UInt8) {x y : UInt8} (hxy : x ≠ y) :
    pearsonStep ret x ≠ pearsonStep ret y :=
  fun h => hxy ((UInt8.xor_right_inj ret).1 (permutationTable_bijective.1 h))

/-- **Pearson hashing is sensitive to every byte**: two byte strings of the same length that
differ at position `i` and nowhere else hash differently.  Both start from the same length; the
bytes before `i` bring them to the same `ret`, the step at `i` separates them, and every later
step keeps them apart. -/
theorem pearson_sensitive {n : ℕ} {xs ys : List UInt8} (hxs : xs.length = n)
    (hys : ys.length = n) {i : ℕ} (hi : i < n) (hdiff : xs[i]? ≠ ys[i]?)
    (hsame : ∀ j, j ≠ i → xs[j]? = ys[j]?) : pearsonGet xs ≠ pearsonGet ys := by
  obtain ⟨pre, suf, x, y, rfl, rfl, hxy⟩ :=
    exists_append_cons_of_diff_at (hxs.trans hys.symm) (hxs ▸ hi) hdiff hsame
  unfold pearsonGet
  rw [if_neg (by omega), if_neg (by omega), hxs, hys]
  exact foldl_append_cons_ne pearsonStep pearsonStep_injective _ pre suf (pearsonStep_ne _ hxy)

/-- The callsigns `N0CALL` and `N0CALM`, as the bytes `proxy_worker_func` hashes. -/
theorem pearson_sensitive_callsign :
    pearsonGet [78, 48, 67, 65, 76, 76] ≠ pearsonGet [78, 48, 67, 65, 76, 77] :=
  pearson_sensitive (n := 6) (i := 5) rfl rfl (by decide) (by decide) fun j hj => by
    rcases Nat.lt_or_ge j 6 with h | h
    · interval_cases j <;> first | rfl | exact absurd rfl hj
    · rw [List.getElem?_eq_none (by simp; omega), List.getElem?_eq_none (by simp; omega)]

end OpenElp
