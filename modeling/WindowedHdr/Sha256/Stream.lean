import WindowedHdr.Sha256.Compress

/-!
# The digest of the game executable

The streaming SHA-256 that identifies the build of the game. A `Sha256` is fed with pieces of
the file as the reads return them; it keeps the hash value of the whole blocks so far, the
bytes that do not fill a block yet, and the length. Bytes of earlier blocks may be left behind
the buffered ones.

`Represents` says which message a state has taken in. One call of `update` appends its input
to the message (`Represents.update`), and `finalize` computes the digest of the message as the
standard defines it (`Represents.finalize`), over one more block or over two.

The length is kept in 64 bits and counts bytes, and the standard counts bits, so messages of `2
^ 61` bytes and more would be padded with a wrong length; that is the only bound.
`update_finalize_sha256` is the composition: any sequence of updates takes in the concatenation
of its inputs (`represents_foldl_update`), whatever the sizes of the pieces are, and
`readLoop_cases` says the same of a file whose reads return as much as they please.
-/

namespace WindowedHdr

open Fips180 (bitsOfBytes blockWords padBytes paddingZeroBytes)

/-- The state of the hash. A full block is compressed at once, so it is never kept. -/
structure Sha256 where
  state : Vector UInt32 8
  block : Vector UInt8 64
  blockLen : Nat
  lengthBytes : UInt64
  blockLen_lt : blockLen < 64

namespace Sha256

/-- `Sha256::new`. -/
def new : Sha256 where
  state := initialState
  block := Vector.replicate 64 0
  blockLen := 0
  lengthBytes := 0
  blockLen_lt := by decide

/-- `while input.len() >= 64`, with the input that is left. -/
def compressBlocks (state : Vector UInt32 8) (input : List UInt8) :
    Vector UInt32 8 × List UInt8 :=
  if 64 ≤ input.length then
    compressBlocks (compress state (copyInto (Vector.replicate 64 0) 0 (input.take 64)))
      (input.drop 64)
  else
    (state, input)
termination_by input.length

/-- Less than a block is left over by the loop. -/
theorem length_compressBlocks (state : Vector UInt32 8) (input : List UInt8) :
    (compressBlocks state input).2.length < 64 := by
  fun_induction compressBlocks with
  | case1 state input h ih => exact ih
  | case2 state input h => exact not_le.mp h

/-- The second half of `update`, when the buffer is empty. -/
def updateBlocks (state : Vector UInt32 8) (block : Vector UInt8 64) (lengthBytes : UInt64)
    (input : List UInt8) : Sha256 where
  state := (compressBlocks state input).1
  block := copyInto block 0 (compressBlocks state input).2
  blockLen := (compressBlocks state input).2.length
  lengthBytes := lengthBytes
  blockLen_lt := length_compressBlocks state input

/-- `Sha256::update`. -/
def update (self : Sha256) (input : List UInt8) : Sha256 :=
  let lengthBytes := self.lengthBytes + .ofNat input.length
  if self.blockLen ≠ 0 then
    let count := min (64 - self.blockLen) input.length
    let block := copyInto self.block self.blockLen (input.take count)
    if h : self.blockLen + count ≠ 64 then
      { self with
        block
        blockLen := self.blockLen + count
        lengthBytes
        blockLen_lt := by have := self.blockLen_lt; omega }
    else
      updateBlocks (compress self.state block) block lengthBytes (input.drop count)
  else
    updateBlocks self.state self.block lengthBytes input

/-- The output of `finalize`. -/
def writeState (state : Vector UInt32 8) : Vector UInt8 32 :=
  (List.range 8).foldl (fun output index =>
    copyInto output (index * 4) (toBigEndian 4 state[index]!.toNat)) (Vector.replicate 32 0)

/-- `Sha256::finalize`. -/
def finalize (self : Sha256) : Vector UInt8 32 :=
  let bitLength := self.lengthBytes * 8
  let block := self.block.set! self.blockLen 0x80
  let blockLen := self.blockLen + 1
  let (state, block) :=
    if 56 < blockLen then
      let block := copyInto block blockLen (List.replicate (64 - blockLen) 0)
      (compress self.state block, Vector.replicate 64 0)
    else
      (self.state, copyInto block blockLen (List.replicate (56 - blockLen) 0))
  let block := copyInto block 56 (toBigEndian 8 bitLength.toNat)
  writeState (compress state block)

/-! ### Text -/

/-- `HEX`. -/
def hexTable : Vector Char 16 :=
  #v['0', '1', '2', '3', '4', '5', '6', '7', '8', '9', 'A', 'B', 'C', 'D', 'E', 'F']

/-- `to_hex`. -/
def toHex (bytes : Vector UInt8 32) : String :=
  bytes.toList.foldl (fun output (byte : UInt8) =>
    (output.push hexTable[(byte >>> 4).toNat]!).push hexTable[(byte &&& 0x0f).toNat]!) ""

/-! ### The file -/

/-- How many bytes a read transfers when the file has them: at least one, and at most what the
buffer holds. -/
abbrev ReadSize : Type := { size : Nat // 0 < size ∧ size ≤ 64 * 1024 }

/-- The loop of `file_hex`. The read number `index` fails or transfers some of the bytes that
are left in the file, and none at the end of the file. -/
def readLoop {ε : Type} (read : Nat → Except ε ReadSize) (index : Nat) (hash : Sha256)
    (rest : List UInt8) : Except ε Sha256 :=
  match read index with
  | .error error => .error error
  | .ok size =>
    let buffer := rest.take size
    if buffer.length = 0 then .ok hash
    else readLoop read (index + 1) (hash.update buffer) (rest.drop size)
termination_by rest.length
decreasing_by
  next hsome =>
  have _hsize := size.property
  have hbuffer : buffer.length = min size.val rest.length := List.length_take
  rw [List.length_drop]
  omega

/-- `file_hex`, for the outcome of opening the file and of the reads. -/
def fileHex {ε : Type} (file : Except ε (List UInt8)) (read : Nat → Except ε ReadSize) :
    Except ε String := do
  let contents ← file
  let hash ← readLoop read 0 new contents
  return toHex hash.finalize

/-! ### The message taken in -/

/-- The hash value after the whole blocks of a message. -/
def blockChain (message : List UInt8) : Vector UInt32 8 :=
  chain (fun H block => Fips180.compress H (blockWords (bitsOfBytes block))) 64
    Fips180.initialHash message

/-- The hash has taken in `message`: the whole blocks are in `state`, and the rest is at the
front of the buffer. -/
def Represents (self : Sha256) (message : List UInt8) : Prop :=
  ∃ whole rest, message = whole ++ rest ∧ 64 ∣ whole.length ∧ self.state = blockChain whole ∧
    self.block.toList.take self.blockLen = rest ∧ self.lengthBytes = .ofNat message.length

/-- One more block. -/
theorem compress_blockChain {whole : List UInt8} (hwhole : 64 ∣ whole.length)
    (block : Vector UInt8 64) :
    compress (blockChain whole) block = blockChain (whole ++ block.toList) := by
  rw [compress_eq, blockChain, blockChain, chain_append (by decide) hwhole,
    chain_block (by decide) block.length_toList]

/-- A source that is copied to the start of a block is followed by the rest of the block. -/
theorem toList_copyInto_zero {n : Nat} (block : Vector UInt8 n) {source : List UInt8}
    (h : source.length ≤ n) :
    (copyInto block 0 source).toList = source ++ block.toList.drop source.length := by
  rw [toList_copyInto block 0 source (by omega), List.take_zero, List.nil_append, Nat.zero_add]

/-- **The loop over whole blocks** cuts the input at a multiple of the block length. -/
theorem compressBlocks_eq {state : Vector UInt32 8} (input : List UInt8) {whole : List UInt8}
    (hwhole : 64 ∣ whole.length) (hstate : state = blockChain whole) :
    ∃ blocks, input = blocks ++ (compressBlocks state input).2 ∧ 64 ∣ blocks.length ∧
      (compressBlocks state input).1 = blockChain (whole ++ blocks) := by
  induction state, input using compressBlocks.induct generalizing whole with
  | case1 state input h ih =>
    -- a whole block extends the chain, and the rest is the induction hypothesis
    rw [compressBlocks, if_pos h]
    have htake : (input.take 64).length = 64 := List.length_take_of_le h
    have hblock : (copyInto (Vector.replicate 64 0) 0 (input.take 64)).toList =
        input.take 64 := by
      rw [toList_copyInto_zero _ (le_of_eq htake), htake, List.drop_eq_nil_of_le (by simp),
        List.append_nil]
    have hnext : compress state (copyInto (Vector.replicate 64 0) 0 (input.take 64)) =
        blockChain (whole ++ input.take 64) := by
      rw [hstate, compress_blockChain hwhole, hblock]
    -- the chain is only defined by whole blocks, so every part keeps a length divisible by 64
    have hdvd : 64 ∣ (whole ++ input.take 64).length := by
      rw [List.length_append, htake]
      exact Nat.dvd_add hwhole (Nat.dvd_refl 64)
    obtain ⟨blocks, hinput, hblocks, hfinal⟩ := ih hdvd hnext
    refine ⟨input.take 64 ++ blocks, ?_, ?_, ?_⟩
    · rw [List.append_assoc, ← hinput, List.take_append_drop]
    · rw [List.length_append, htake]
      exact Nat.dvd_add (Nat.dvd_refl 64) hblocks
    · rw [hfinal, List.append_assoc]
  | case2 state input h =>
    -- less than a block is left over
    rw [compressBlocks, if_neg h]
    exact ⟨[], rfl, Nat.dvd_zero 64, by rw [hstate, List.append_nil]⟩

/-- A new hash represents the empty message. -/
theorem represents_new : Represents new [] := by
  refine ⟨[], [], rfl, Nat.dvd_zero 64, ?_, rfl, rfl⟩
  rw [blockChain, chain_nil]
  exact initialState_eq

/-- What `update` does once the buffer is empty. -/
theorem represents_updateBlocks {state : Vector UInt32 8} {block : Vector UInt8 64}
    {lengthBytes : UInt64} {whole input : List UInt8} (hwhole : 64 ∣ whole.length)
    (hstate : state = blockChain whole)
    (hlength : lengthBytes = .ofNat (whole ++ input).length) :
    Represents (updateBlocks state block lengthBytes input) (whole ++ input) := by
  obtain ⟨blocks, hinput, hblocks, hfinal⟩ := compressBlocks_eq input hwhole hstate
  have hrest := length_compressBlocks state input
  -- the rest is shorter than a block, so it lies at the front of the buffer
  refine ⟨whole ++ blocks, (compressBlocks state input).2, ?_, ?_, hfinal, ?_, hlength⟩
  · rw [List.append_assoc, ← hinput]
  · rw [List.length_append]
    exact Nat.dvd_add hwhole hblocks
  · rw [updateBlocks, toList_copyInto_zero _ (le_of_lt hrest), List.take_left]

/-- **One call of `update`** appends its input to the message. -/
theorem Represents.update {self : Sha256} {message : List UInt8} (h : Represents self message)
    (input : List UInt8) : Represents (self.update input) (message ++ input) := by
  obtain ⟨whole, rest, rfl, hwhole, hstate, hblock, hlength⟩ := h
  have hlt := self.blockLen_lt
  have hrest : rest.length = self.blockLen := by
    rw [← hblock, List.length_take, Vector.length_toList]
    omega
  have hlength' : self.lengthBytes + .ofNat input.length =
      .ofNat (whole ++ rest ++ input).length := by
    rw [hlength, ← UInt64.ofNat_add, ← List.length_append]
  rw [Sha256.update]
  split
  · next hpartial =>
    -- the buffer holds some bytes already
    have hcopied : (input.take (min (64 - self.blockLen) input.length)).length =
        min (64 - self.blockLen) input.length := by
      rw [List.length_take]
      omega
    have hbuffer := toList_copyInto self.block self.blockLen
      (input.take (min (64 - self.blockLen) input.length)) (by omega)
    rw [hblock, hcopied] at hbuffer
    dsimp only
    split
    · next hfull =>
      -- all of the input fits behind them
      have hall : min (64 - self.blockLen) input.length = input.length := by omega
      rw [hall, List.take_length] at hbuffer
      refine ⟨whole, rest ++ input, List.append_assoc .., hwhole, hstate, ?_, hlength'⟩
      simp only [hall, List.take_length]
      rw [hbuffer, List.take_left' (by rw [List.length_append, hrest])]
    · next hfull =>
      -- the input completes the block
      have hcount : self.blockLen + min (64 - self.blockLen) input.length = 64 :=
        not_not.mp hfull
      rw [hcount, List.drop_eq_nil_of_le (by simp), List.append_nil] at hbuffer
      have hstate' : compress self.state (copyInto self.block self.blockLen
          (input.take (min (64 - self.blockLen) input.length))) =
          blockChain (whole ++ (rest ++ input.take (min (64 - self.blockLen) input.length))) := by
        rw [hstate, compress_blockChain hwhole, hbuffer]
      have hdvd : 64 ∣ (whole ++
          (rest ++ input.take (min (64 - self.blockLen) input.length))).length := by
        rw [List.length_append, List.length_append, hcopied, hrest, hcount]
        exact Nat.dvd_add hwhole (Nat.dvd_refl 64)
      have hmessage : whole ++ rest ++ input =
          whole ++ (rest ++ input.take (min (64 - self.blockLen) input.length)) ++
            input.drop (min (64 - self.blockLen) input.length) := by
        rw [List.append_assoc, List.append_assoc, List.append_assoc, List.take_append_drop]
      rw [hmessage] at hlength' ⊢
      exact represents_updateBlocks hdvd hstate' hlength'
  · next hempty =>
    -- the buffer is empty, and the input starts at a block boundary
    obtain rfl : rest = [] := List.length_eq_zero_iff.mp (by omega)
    rw [List.append_nil] at hlength' ⊢
    exact represents_updateBlocks hwhole hstate hlength'

/-- The states after any sequence of calls. -/
theorem represents_foldl_update (chunks : List (List UInt8)) :
    Represents (chunks.foldl Sha256.update new) chunks.flatten := by
  -- for any hash that has taken in something already, so that the induction goes through
  suffices ∀ self message, Represents self message →
      Represents (chunks.foldl Sha256.update self) (message ++ chunks.flatten) from
    this new [] represents_new
  induction chunks with
  | nil =>
    intro self message h
    rwa [List.flatten_nil, List.append_nil]
  | cons chunk chunks ih =>
    intro self message h
    rw [List.foldl_cons, List.flatten_cons, ← List.append_assoc]
    exact ih _ _ (h.update chunk)

/-! ### The digest -/

/-- The digest is the state, word by word, with the most significant byte first. -/
theorem toList_writeState (state : Vector UInt32 8) :
    (writeState state).toList = state.toList.flatMap fun word => toBigEndian 4 word.toNat := by
  -- the first `count` words are written, and the rest of the output is still zero
  have hwords : ∀ count ≤ 8, ((List.range count).foldl (fun output index =>
      copyInto output (index * 4) (toBigEndian 4 state[index]!.toNat))
      (Vector.replicate 32 0)).toList =
      ((state.toList.take count).flatMap fun word => toBigEndian 4 word.toNat) ++
        List.replicate (32 - count * 4) 0 := by
    intro count
    induction count with
    | zero => intro _; rfl
    | succ count ih =>
      intro hcount
      have hwritten : ((state.toList.take count).flatMap
          fun word => toBigEndian 4 word.toNat).length = count * 4 := by
        rw [length_flatMap_of_length (fun word => length_toBigEndian 4 _), List.length_take,
          Vector.length_toList]
        omega
      have hin : count < state.toList.length := by
        rw [Vector.length_toList]
        omega
      -- the index of the loop is in the vector, so the default is not read
      have hword : state[count]! = state.toList[count] := by
        rw [getElem!_pos state count (by omega), Vector.getElem_toList]
      rw [List.range_succ, List.foldl_append, List.foldl_cons, List.foldl_nil,
        toList_copyInto _ _ _ (by rw [length_toBigEndian]; omega), ih (by omega),
        List.take_left' hwritten, length_toBigEndian, ← hwritten, List.drop_append,
        List.drop_eq_nil_of_le (by omega), List.take_succ_eq_append_getElem hin,
        List.flatMap_append, List.flatMap_singleton, hword, List.nil_append, List.drop_replicate]
      congr 2
      omega
  rw [writeState, hwords 8 le_rfl, List.take_of_length_le (by simp)]
  exact List.append_nil _

/-- The buffer behind the marker byte: the message bytes, the marker, and what is copied. -/
theorem toList_copyInto_marker {block : Vector UInt8 64} {rest : List UInt8} (source : List UInt8)
    (hblock : block.toList.take rest.length = rest) (h : rest.length + 1 + source.length ≤ 64) :
    (copyInto (block.set! rest.length 0x80) (rest.length + 1) source).toList =
      rest ++ 0x80 :: source ++ block.toList.drop (rest.length + 1 + source.length) := by
  have hmarker : (block.toList.set rest.length 0x80).take (rest.length + 1) = rest ++ [0x80] := by
    rw [List.take_add_one, List.take_set_of_le le_rfl, hblock,
      List.getElem?_set_self (by simp; omega)]
    rfl
  rw [toList_copyInto _ _ _ h, Vector.toList_set!, hmarker, List.drop_set_of_lt (by omega),
    List.append_assoc rest]
  rfl

/-- **`finalize` computes the standard's digest** of the message taken in. -/
theorem Represents.finalize {self : Sha256} {message : List UInt8} (h : Represents self message)
    (hlength : message.length < 2 ^ 61) :
    bitsOfBytes self.finalize.toList = Fips180.sha256 (bitsOfBytes message) := by
  obtain ⟨whole, rest, rfl, hwhole, hstate, hblock, hbytes⟩ := h
  have hlt := self.blockLen_lt
  have hrest : self.blockLen = rest.length := by
    rw [← hblock, List.length_take, Vector.length_toList]
    omega
  -- below `2 ^ 61` bytes neither the length nor its product with 8 wraps
  have hbits : (self.lengthBytes * 8).toNat = 8 * (whole ++ rest).length := by
    have hmul := UInt64.ofNat_mul (whole ++ rest).length 8
    rw [hbytes]
    refine (congrArg UInt64.toNat hmul.symm).trans ?_
    rw [UInt64.toNat_ofNat_of_lt' (by rw [UInt64.size]; omega), Nat.mul_comm]
  rw [hrest] at hblock hlt
  have hmod : (whole ++ rest).length % 64 = rest.length := by
    rw [List.length_append, Nat.add_mod, Nat.mod_eq_zero_of_dvd hwhole, Nat.zero_add, Nat.mod_mod,
      Nat.mod_eq_of_lt hlt]
  -- the standard hashes the padded message, which is what the buffer is filled up to
  suffices self.finalize = writeState (blockChain (padBytes (whole ++ rest))) by
    rw [this, toList_writeState, Fips180.sha256_bitsOfBytes]
    rfl
  simp only [Sha256.finalize, hrest, hbits]
  split
  · next hspill =>
    -- the length does not fit behind the marker
    have hzeros : paddingZeroBytes (whole ++ rest).length =
        64 - (rest.length + 1) + 56 := by
      rw [paddingZeroBytes, Nat.add_mod, hmod]
      omega
    have hfirst := toList_copyInto_marker (List.replicate (64 - (rest.length + 1)) 0) hblock
      (by rw [List.length_replicate]; omega)
    rw [List.length_replicate, List.drop_eq_nil_of_le (by simp; omega), List.append_nil] at hfirst
    have hsecond := toList_copyInto (Vector.replicate 64 0) 56
      (toBigEndian 8 (8 * (whole ++ rest).length)) (by rw [length_toBigEndian])
    rw [length_toBigEndian, List.drop_eq_nil_of_le (by simp), List.append_nil,
      Vector.toList_replicate, List.take_replicate] at hsecond
    have hdvd : 64 ∣ (whole ++
        (rest ++ 0x80 :: List.replicate (64 - (rest.length + 1)) 0)).length := by
      rw [← hfirst, List.length_append, Vector.length_toList]
      exact Nat.dvd_add hwhole (Nat.dvd_refl 64)
    dsimp only
    rw [hstate, compress_blockChain hwhole, hfirst, compress_blockChain hdvd, hsecond, padBytes,
      hzeros, List.replicate_add]
    simp only [List.append_assoc, List.cons_append]
    rfl
  · next hfits =>
    -- marker and length fit into the block of the rest
    have hzeros : paddingZeroBytes (whole ++ rest).length = 56 - (rest.length + 1) := by
      rw [paddingZeroBytes, Nat.add_mod, hmod]
      omega
    have hfirst := toList_copyInto_marker (List.replicate (56 - (rest.length + 1)) 0) hblock
      (by rw [List.length_replicate]; omega)
    have hmarked : (rest ++ 0x80 :: List.replicate (56 - (rest.length + 1)) 0).length = 56 := by
      simp
      omega
    have hsecond := toList_copyInto (copyInto (self.block.set! rest.length 0x80)
      (rest.length + 1) (List.replicate (56 - (rest.length + 1)) 0)) 56
      (toBigEndian 8 (8 * (whole ++ rest).length)) (by rw [length_toBigEndian])
    rw [length_toBigEndian, List.drop_eq_nil_of_le (by simp), List.append_nil, hfirst,
      List.take_left' hmarked] at hsecond
    dsimp only
    rw [hstate, compress_blockChain hwhole, hsecond, padBytes, hzeros]
    simp only [List.append_assoc, List.cons_append]

/-! ### The text of the digest -/

/-- The upper-case hexadecimal digits of a bit string, four bits each. -/
def hexOfBits (bits : Fips180.Bits) : String :=
  chain (fun text digit => text.push (Nat.digitChar (Fips180.natOfBits digit)).toUpper) 4 "" bits

/-- The two digits of a byte. -/
theorem hexTable_byte (byte : UInt8) :
    hexTable[(byte >>> 4).toNat]! =
        (Nat.digitChar (Fips180.natOfBits ((Fips180.bitsOfByte byte).take 4))).toUpper ∧
      hexTable[(byte &&& 0x0f).toNat]! =
        (Nat.digitChar (Fips180.natOfBits ((Fips180.bitsOfByte byte).drop 4))).toUpper := by
  -- all 256 bytes are evaluated
  have h : ∀ n < 256, hexTable[(UInt8.ofNat n >>> 4).toNat]! = (Nat.digitChar
        (Fips180.natOfBits ((Fips180.bitsOfByte (UInt8.ofNat n)).take 4))).toUpper ∧
      hexTable[(UInt8.ofNat n &&& 0x0f).toNat]! = (Nat.digitChar
        (Fips180.natOfBits ((Fips180.bitsOfByte (UInt8.ofNat n)).drop 4))).toUpper := by
    decide +kernel
  have hbyte := h byte.toNat byte.toNat_lt
  rwa [UInt8.ofNat_toNat] at hbyte

/-- **`to_hex`** writes the bits of the digest in hexadecimal. -/
theorem toHex_eq (bytes : Vector UInt8 32) :
    toHex bytes = hexOfBits (bitsOfBytes bytes.toList) := by
  rw [toHex, hexOfBits]
  generalize bytes.toList = bytes
  generalize "" = text
  induction bytes generalizing text with
  | nil => rw [List.foldl_nil, bitsOfBytes, List.flatMap_nil, chain_nil]
  | cons byte bytes ih =>
    -- a byte is two blocks of four bits, and two digits
    have hlen := Fips180.length_bitsOfByte byte
    obtain ⟨hhigh, hlow⟩ := hexTable_byte byte
    rw [List.foldl_cons, ih, Fips180.bitsOfBytes_cons,
      ← List.take_append_drop 4 (Fips180.bitsOfByte byte), List.append_assoc,
      chain_cons_block (by decide) (by rw [List.length_take, hlen]; rfl),
      chain_cons_block (by decide) (by rw [List.length_drop, hlen]), hhigh, hlow]

/-- **The loop of `file_hex`** takes in the whole file, or fails with the error of a read. -/
theorem readLoop_cases {ε : Type} (read : Nat → Except ε ReadSize) (index : Nat) {hash : Sha256}
    {message : List UInt8} (h : Represents hash message) (rest : List UInt8) :
    (∃ final, readLoop read index hash rest = .ok final ∧ Represents final (message ++ rest)) ∨
      ∃ i error, read i = .error error ∧ readLoop read index hash rest = .error error := by
  -- every read that does not end the loop makes the rest of the file shorter
  induction hn : rest.length using Nat.strong_induction_on generalizing
    index hash message rest with
  | _ n ih =>
    rw [readLoop]
    cases hread : read index with
    | error error => exact .inr ⟨index, error, hread, rfl⟩
    | ok size =>
      have hpos := size.property.1
      have hbuffer : (rest.take size.val).length = min size.val rest.length := List.length_take
      dsimp only
      split
      · next hend =>
        -- a read of nothing is the end of the file
        obtain rfl : rest = [] := List.length_eq_zero_iff.mp (by omega)
        exact .inl ⟨hash, rfl, by rwa [List.append_nil]⟩
      · next hsome =>
        -- the hash has taken in what was read, and less is left
        have hshorter : (rest.drop size.val).length < n := by
          rw [List.length_drop]
          omega
        have hnext := ih _ hshorter (index + 1) (h.update (rest.take size.val)) _ rfl
        rwa [List.append_assoc, List.take_append_drop] at hnext

/-- **The digest is SHA-256, however the message is cut.** For every list of chunks below
`2 ^ 61` bytes the calls of `update` and `finalize` compute the digest of the concatenation
that the standard defines. So `file_hex` returns this digest of the file as text whatever
sizes the reads return, unless a read fails, and then it returns the error of that read. -/
theorem update_finalize_sha256 :
    (∀ chunks : List (List UInt8), chunks.flatten.length < 2 ^ 61 →
      bitsOfBytes (chunks.foldl update new).finalize.toList =
        Fips180.sha256 (bitsOfBytes chunks.flatten)) ∧
    ∀ {ε : Type} (contents : List UInt8) (read : Nat → Except ε ReadSize),
      contents.length < 2 ^ 61 →
        fileHex (.ok contents) read =
            .ok (hexOfBits (Fips180.sha256 (bitsOfBytes contents))) ∨
          ∃ i error, read i = .error error ∧ fileHex (.ok contents) read = .error error := by
  constructor
  · intro chunks hlength
    exact (represents_foldl_update chunks).finalize hlength
  · intro ε contents read hlength
    -- the reads cut the file somehow, and the first part holds for any cut
    have hhex : fileHex (.ok contents) read =
        readLoop read 0 new contents >>= fun hash => .ok (toHex hash.finalize) := rfl
    rcases readLoop_cases read 0 represents_new contents with
      ⟨final, hloop, hfinal⟩ | ⟨i, error, hread, hloop⟩
    · left
      rw [List.nil_append] at hfinal
      rw [← hfinal.finalize hlength, ← toHex_eq, hhex, hloop]
      rfl
    · right
      refine ⟨i, error, hread, ?_⟩
      rw [hhex, hloop]
      rfl

/-- The message `abc` in three pieces, and as a file that is read two bytes at a time. -/
theorem update_finalize_sha256_abc :
    bitsOfBytes (([[0x61], [], [0x62, 0x63]] : List (List UInt8)).foldl update
        new).finalize.toList = Fips180.sha256 (bitsOfBytes [0x61, 0x62, 0x63]) ∧
      fileHex (.ok [0x61, 0x62, 0x63])
          (fun _ => .ok ⟨2, by decide⟩ : Nat → Except String ReadSize) =
        .ok (hexOfBits (Fips180.sha256 (bitsOfBytes [0x61, 0x62, 0x63]))) := by
  constructor
  · exact update_finalize_sha256.1 [[0x61], [], [0x62, 0x63]] (by decide)
  -- these reads never fail
  · refine (update_finalize_sha256.2 [0x61, 0x62, 0x63] _ (by decide)).resolve_right ?_
    rintro ⟨i, error, hread, -⟩
    cases hread

example : fileHex (.ok [0x61, 0x62, 0x63])
    (fun _ => .ok ⟨2, by decide⟩ : Nat → Except String ReadSize) =
      .ok "BA7816BF8F01CFEA414140DE5DAE2223B00361A396177A9CB410FF61F20015AD" := by
  decide +kernel

end Sha256
end WindowedHdr
