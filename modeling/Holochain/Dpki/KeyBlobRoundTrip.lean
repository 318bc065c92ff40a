/-
Round trips of the key blobs (`dpki/src/key_blob.rs`).

With `decrypt_with_passphrase_buf` inverting `encrypt_with_passphrase_buf` and the HCID codecs
decoding what they encode, `from_blob` gives back what `as_blob` wrote, for a seed, a key
bundle and both key pairs; a blob of another type, or whose buffer starts with another
version byte, is refused.

`as_blob` writes at offsets it sums from the key sizes, `from_blob` slices at bounds it
hard-codes. `KeyPairBlobFormat.Consistent` says that the two agree, and
`signingKeyBlobFormat_consistent` and `encryptingKeyBlobFormat_consistent` check it for
the two key pairs; the key bundle's bounds are checked in its own proof.

* `keyPairAsBlob_eq`, `KeyBundle.asBlob_eq` — what `as_blob` encrypts: the version and the
  keys one after the other, then zeros up to the aligned size;
* `keyPairFromBlob_of_unblob`, `KeyBundle.fromBlob_of_unblob` — `from_blob` of that buffer
  gives the keys back;
* `key_blob_round_trips` — the round trips and the refusals, for every seed, key bundle and
  key pair with keys of the sizes lib3h_sodium fixes.
-/
import Holochain.Dpki.KeyBlob
import Holochain.Lib.Except

namespace Holochain.Dpki

/-! ### The buffer operations -/

section Buffers

variable {buf : SecBuf}

/-- A write right after what was written so far, into zeros, appends the data. -/
theorem SecBuf.write_append_replicate (pre data : SecBuf) {k offset : Nat}
    (ho : offset = pre.length) (hk : data.length ≤ k) :
    SecBuf.write (pre ++ List.replicate k 0) offset data =
      .ok ((pre ++ data) ++ List.replicate (k - data.length) 0) := by
  rw [SecBuf.write, ByteBuf.write_append_replicate pre data 0 ho hk]
  rfl

/-- A write of a buffer's whole length gives the data. -/
theorem SecBuf.write_of_length_eq {data : SecBuf} (h : data.length = buf.length) :
    SecBuf.write buf 0 data = .ok data := by
  rw [SecBuf.write, ByteBuf.write_of_length_eq h]
  rfl

/-- A key written into a fresh buffer of its size is the buffer. -/
theorem SecBuf.write_withSecure {data : SecBuf} {n : Nat} (h : data.length = n) :
    SecBuf.write (SecBuf.withSecure n) 0 data = .ok data :=
  SecBuf.write_of_length_eq (by rw [SecBuf.withSecure, List.length_replicate, h])

theorem SecBuf.write_withInsecure {data : SecBuf} {n : Nat} (h : data.length = n) :
    SecBuf.write (SecBuf.withInsecure n) 0 data = .ok data :=
  SecBuf.write_of_length_eq (by rw [SecBuf.withInsecure, List.length_replicate, h])

theorem sliceRange_of_slice {start stop : Nat} {s : SecBuf}
    (h : ByteBuf.slice buf start stop = some s) : sliceRange buf start stop = .ok s := by
  unfold sliceRange
  rw [h]
  rfl

@[simp] theorem resultExpect_ok {ε α : Type} (a : α) (msg : String) :
    resultExpect (.ok a : Except ε α) msg = .ok a :=
  rfl

@[simp] theorem assertEq_self (n : Nat) : assertEq n n = .ok () :=
  if_pos rfl

end Buffers

/-! ### What the codecs and the cipher are assumed to do -/

/-- The codec decodes what it encodes: hcid's round trip, which the source's
`it_should_hcid_roundtrip` tests. -/
def HcidEncoding.DecodesEncoded (codec : HcidEncoding) : Prop :=
  ∀ key text, codec.encode key = .ok text → codec.decode text = .ok key

/-- A public key as the source's key pairs make it: the HCID text of a key of `n` bytes. -/
def HcidEncoding.Encodes (codec : HcidEncoding) (n : Nat) (publicKey : String) : Prop :=
  ∃ key : SecBuf, key.length = n ∧ codec.encode key = .ok publicKey

/-- `decrypt_with_passphrase_buf` inverts `encrypt_with_passphrase_buf`: with the same
passphrase and config, at the size of what was encrypted, it gives the bytes back. -/
def PassphraseCipher.Inverts (cipher : PassphraseCipher) : Prop :=
  ∀ data passphrase config text, cipher.encryptWithPassphraseBuf data passphrase config = .ok text →
    cipher.decryptWithPassphraseBuf text passphrase config data.length = .ok data

section Codec

variable {codec : HcidEncoding} {key : SecBuf} {publicKey : String}

theorem KeyPair.decodePubKey_of_encode (hcodec : codec.DecodesEncoded)
    (hencode : codec.encode key = .ok publicKey) :
    KeyPair.decodePubKey codec publicKey = .ok key := by
  rw [KeyPair.decodePubKey, hcodec key publicKey hencode]
  rfl

/-- `encode_pub_key` of a buffer of `SEED_SIZE` bytes is the HCID text of the buffer. -/
theorem KeyPair.encodePubKey_of_encode (hlen : key.length = seedSize)
    (hencode : codec.encode key = .ok publicKey) :
    KeyPair.encodePubKey codec key = .ok publicKey := by
  have hslice : sliceRange key 0 seedSize = .ok key :=
    sliceRange_of_slice (ByteBuf.slice_self key hlen.symm)
  simp [KeyPair.encodePubKey, Utils.encodePubKey, hslice, hencode]

end Codec

section Blobbable

variable (cipher : PassphraseCipher) {blobType : BlobType} {blobSize : Nat} {blob : KeyBlob}
  {dataBuf passphrase : SecBuf} {config : Option PwHashConfig}

theorem finalizeBlobbing_of_length (h : dataBuf.length = blobSize) :
    finalizeBlobbing cipher blobSize dataBuf passphrase config =
      cipher.encryptWithPassphraseBuf dataBuf passphrase config :=
  if_neg (not_not.mpr h)

theorem unblob_of_blobType_ne (h : blob.blobType ≠ blobType) :
    unblob cipher blobType blobSize blob passphrase config =
      .error (.errorGeneric "Blob type mismatch while unblobbing") :=
  if_pos h

theorem unblob_of_blobType_eq (h : blob.blobType = blobType) :
    unblob cipher blobType blobSize blob passphrase config =
      cipher.decryptWithPassphraseBuf blob.data passphrase config blobSize :=
  if_neg (not_not.mpr h)

/-- A blob of its type's own blob type, holding an encrypted buffer of its size, unblobs to
that buffer. -/
theorem unblob_of_encrypt (hinv : cipher.Inverts) {text : String}
    (hencrypt : cipher.encryptWithPassphraseBuf dataBuf passphrase config = .ok text)
    (hlen : dataBuf.length = blobSize) (seedType : SeedType) (hint : String) :
    unblob cipher blobType blobSize ⟨blobType, seedType, hint, text⟩ passphrase config =
      .ok dataBuf := by
  have hdecrypt := hinv dataBuf passphrase config text hencrypt
  rw [hlen] at hdecrypt
  exact (unblob_of_blobType_eq cipher rfl).trans hdecrypt

/-- What an encrypted blob is, given what it encrypts. -/
theorem encrypted_of_map_eq_ok {f : String → KeyBlob}
    (h : (cipher.encryptWithPassphraseBuf dataBuf passphrase config).map f = .ok blob) :
    ∃ text, cipher.encryptWithPassphraseBuf dataBuf passphrase config = .ok text ∧
      blob = f text := by
  cases hencrypt : cipher.encryptWithPassphraseBuf dataBuf passphrase config with
  | error e =>
    rw [hencrypt] at h
    cases h
  | ok text =>
    rw [hencrypt] at h
    exact ⟨text, rfl, (Except.ok.inj h).symm⟩

end Blobbable

/-! ### The key pairs -/

/-- The bounds a key pair's `from_blob` slices at are where its `as_blob` writes, the buffer
holds what is written, and the public key has the `SEED_SIZE` bytes `encode_pub_key`
reads. -/
structure KeyPairBlobFormat.Consistent (fmt : KeyPairBlobFormat) : Prop where
  publicStart : fmt.publicStart = 1
  publicStop : fmt.publicStop = 1 + fmt.publicKeyBytes
  privateStart : fmt.privateStart = 1 + fmt.publicKeyBytes
  privateStop : fmt.privateStop = 1 + fmt.publicKeyBytes + fmt.secretKeyBytes
  fits : 1 + fmt.publicKeyBytes + fmt.secretKeyBytes ≤ fmt.blobSizeAligned
  publicKeyBytes : fmt.publicKeyBytes = seedSize

theorem signingKeyBlobFormat_consistent : signingKeyBlobFormat.Consistent :=
  ⟨rfl, rfl, rfl, rfl, by decide, rfl⟩

theorem encryptingKeyBlobFormat_consistent : encryptingKeyBlobFormat.Consistent :=
  ⟨rfl, rfl, rfl, rfl, by decide, rfl⟩

/-- What a key pair's `as_blob` encrypts: the version, the public key and the private key,
then zeros up to the aligned size. -/
def keyPairLayout (fmt : KeyPairBlobFormat) (key privateKey : SecBuf) : SecBuf :=
  (([fmt.version] ++ key) ++ privateKey) ++
    List.replicate (fmt.blobSizeAligned - 1 - key.length - privateKey.length) 0

section KeyPairs

variable (cipher : PassphraseCipher) {codec : HcidEncoding} {fmt : KeyPairBlobFormat}
  {key privateKey passphrase : SecBuf} {publicKey hint : String}
  {config : Option PwHashConfig} {blob : KeyBlob}

theorem length_keyPairLayout (hfmt : fmt.Consistent) (hkey : key.length = fmt.publicKeyBytes)
    (hpriv : privateKey.length = fmt.secretKeyBytes) :
    (keyPairLayout fmt key privateKey).length = fmt.blobSizeAligned := by
  have hfits := hfmt.fits
  simp only [keyPairLayout, List.length_append, List.length_replicate, List.length_singleton]
  omega

/-- `as_blob` of a key pair with keys of its sizes encrypts its layout. -/
theorem keyPairAsBlob_eq (hfmt : fmt.Consistent)
    (hdecode : KeyPair.decodePubKey codec publicKey = .ok key)
    (hkey : key.length = fmt.publicKeyBytes) (hpriv : privateKey.length = fmt.secretKeyBytes) :
    keyPairAsBlob cipher codec fmt publicKey privateKey passphrase hint config =
      .ok ((cipher.encryptWithPassphraseBuf (keyPairLayout fmt key privateKey) passphrase
        config).map fun encodedBlob => ⟨fmt.blobType, .mock, hint, encodedBlob⟩) := by
  have hfits := hfmt.fits
  -- the three writes, each right after the one before
  have hversion : SecBuf.write (SecBuf.withSecure fmt.blobSizeAligned) 0 [fmt.version] =
      .ok ([fmt.version] ++ List.replicate (fmt.blobSizeAligned - 1) 0) := by
    have h := SecBuf.write_append_replicate [] [fmt.version] (k := fmt.blobSizeAligned) rfl
      (by rw [List.length_singleton]; omega)
    rwa [List.nil_append, List.nil_append] at h
  have hpublic : SecBuf.write ([fmt.version] ++ List.replicate (fmt.blobSizeAligned - 1) 0)
      (0 + 1) key =
      .ok (([fmt.version] ++ key) ++ List.replicate (fmt.blobSizeAligned - 1 - key.length) 0) :=
    SecBuf.write_append_replicate _ _ rfl (by omega)
  have hprivate : SecBuf.write
      (([fmt.version] ++ key) ++ List.replicate (fmt.blobSizeAligned - 1 - key.length) 0)
      (0 + 1 + fmt.publicKeyBytes) privateKey = .ok (keyPairLayout fmt key privateKey) :=
    SecBuf.write_append_replicate _ _
      (by rw [List.length_append, List.length_singleton, hkey]) (by omega)
  have hassert : assertEq fmt.publicKeyBytes key.length = .ok () := by
    rw [hkey]
    exact assertEq_self _
  have hlen := length_keyPairLayout hfmt hkey hpriv
  unfold keyPairAsBlob
  simp only [hversion, resultExpect_ok, Except.ok_bind, hdecode, hassert, hpublic, hprivate,
    finalizeBlobbing_of_length cipher hlen]
  rfl

/-- `from_blob` of a key pair's layout gives the key pair back. -/
theorem keyPairFromBlob_of_unblob {κ : Type} (new : String → SecBuf → κ) (hfmt : fmt.Consistent)
    (hunblob : unblob cipher fmt.blobType fmt.blobSizeAligned blob passphrase config =
      .ok (keyPairLayout fmt key privateKey))
    (hkey : key.length = fmt.publicKeyBytes) (hpriv : privateKey.length = fmt.secretKeyBytes)
    (hencode : codec.encode key = .ok publicKey) :
    keyPairFromBlob cipher codec fmt new blob passphrase config =
      .ok (.ok (new publicKey privateKey)) := by
  have hfits := hfmt.fits
  -- the two hard-coded slices are the two keys
  have hpublic : sliceRange (keyPairLayout fmt key privateKey) fmt.publicStart fmt.publicStop =
      .ok key := by
    apply sliceRange_of_slice
    rw [keyPairLayout, ByteBuf.slice_append_of_le_length _ _ (by
      simp only [List.length_append, List.length_singleton, hfmt.publicStop, hkey, hpriv]; omega)]
    exact ByteBuf.slice_append_append _ _ _ (by rw [hfmt.publicStart]; rfl)
      (by rw [hfmt.publicStop, hkey]; rfl)
  have hprivate : sliceRange (keyPairLayout fmt key privateKey) fmt.privateStart
      fmt.privateStop = .ok privateKey := by
    apply sliceRange_of_slice
    exact ByteBuf.slice_append_append _ _ _
      (by simp only [List.length_append, List.length_singleton, hfmt.privateStart, hkey])
      (by simp only [List.length_append, List.length_singleton, hfmt.privateStop, hkey, hpriv])
  have hencodePub : KeyPair.encodePubKey codec key = .ok publicKey :=
    KeyPair.encodePubKey_of_encode (hkey.trans hfmt.publicKeyBytes) hencode
  have hversion : index (keyPairLayout fmt key privateKey) 0 = .ok fmt.version := rfl
  unfold keyPairFromBlob
  simp only [hunblob, hversion, Except.ok_bind, ne_eq, not_true_eq_false, if_false, hpublic,
    SecBuf.write_withInsecure hkey, hprivate, SecBuf.write_withSecure hpriv, hencodePub]
  rfl

/-- The round trip of a key pair whose public key is the HCID text of a key of its size and
whose private key has its size. -/
theorem keyPairFromBlob_keyPairAsBlob {κ : Type} (new : String → SecBuf → κ)
    (hinv : cipher.Inverts) (hcodec : codec.DecodesEncoded) (hfmt : fmt.Consistent)
    (hencode : codec.encode key = .ok publicKey) (hkey : key.length = fmt.publicKeyBytes)
    (hpriv : privateKey.length = fmt.secretKeyBytes) :
    ∃ r, keyPairAsBlob cipher codec fmt publicKey privateKey passphrase hint config = .ok r ∧
      ∀ blob, r = .ok blob → keyPairFromBlob cipher codec fmt new blob passphrase config =
        .ok (.ok (new publicKey privateKey)) := by
  refine ⟨_, keyPairAsBlob_eq cipher hfmt (KeyPair.decodePubKey_of_encode hcodec hencode)
    hkey hpriv, fun blob hblob => ?_⟩
  -- the blob holds the encrypted layout
  obtain ⟨text, hencrypt, rfl⟩ := encrypted_of_map_eq_ok cipher hblob
  exact keyPairFromBlob_of_unblob cipher new hfmt
    (unblob_of_encrypt cipher hinv hencrypt (length_keyPairLayout hfmt hkey hpriv) _ _)
    hkey hpriv hencode

/-- A blob of another type is refused. -/
theorem keyPairFromBlob_of_blobType_ne {κ : Type} (new : String → SecBuf → κ)
    (h : blob.blobType ≠ fmt.blobType) :
    keyPairFromBlob cipher codec fmt new blob passphrase config =
      .ok (.error (.errorGeneric "Blob type mismatch while unblobbing")) := by
  unfold keyPairFromBlob
  rw [unblob_of_blobType_ne cipher h]
  rfl

/-- A blob whose buffer starts with another version byte is refused. -/
theorem keyPairFromBlob_of_version_ne {κ : Type} (new : String → SecBuf → κ)
    {version : UInt8} {rest : SecBuf} (htype : blob.blobType = fmt.blobType)
    (hdecrypt : cipher.decryptWithPassphraseBuf blob.data passphrase config fmt.blobSizeAligned =
      .ok (version :: rest))
    (hversion : version ≠ fmt.version) :
    keyPairFromBlob cipher codec fmt new blob passphrase config =
      .ok (.error (.errorGeneric s!"Invalid {fmt.name} Blob Format: v{version} != v{fmt.version}")) := by
  unfold keyPairFromBlob
  rw [unblob_of_blobType_eq cipher htype, hdecrypt]
  simp only [index, List.getElem?_cons_zero, Except.pure_eq_ok, Except.ok_bind, ne_eq, hversion,
    not_false_eq_true, if_true]

end KeyPairs

/-! ### The key bundle -/

/-- What `KeyBundle::as_blob` encrypts: the version, the two public keys and the two private
keys, then zeros up to the aligned size. -/
def keyBundleLayout (signKey encKey signPrivate encPrivate : SecBuf) : SecBuf :=
  (((([keybundleBlobFormatVersion] ++ signKey) ++ encKey) ++ signPrivate) ++ encPrivate) ++
    List.replicate (keybundleBlobSizeAligned - 1 - signKey.length - encKey.length -
      signPrivate.length - encPrivate.length) 0

section KeyBundle

variable (cipher : PassphraseCipher) {codecHcs0 codecHck0 : HcidEncoding}
  {signKey encKey signPrivate encPrivate passphrase : SecBuf} {signPublic encPublic hint : String}
  {config : Option PwHashConfig} {blob : KeyBlob}

/-- The key sizes, as the key bundle's proofs use them. -/
structure KeyBundleSizes (signKey encKey signPrivate encPrivate : SecBuf) : Prop where
  signKey : signKey.length = signPublicKeyBytes
  encKey : encKey.length = kxPublicKeyBytes
  signPrivate : signPrivate.length = signSecretKeyBytes
  encPrivate : encPrivate.length = kxSecretKeyBytes

theorem length_keyBundleLayout (hsizes : KeyBundleSizes signKey encKey signPrivate encPrivate) :
    (keyBundleLayout signKey encKey signPrivate encPrivate).length = keybundleBlobSizeAligned := by
  obtain ⟨h1, h2, h3, h4⟩ := hsizes
  simp only [keyBundleLayout, List.length_append, List.length_replicate, List.length_singleton,
    h1, h2, h3, h4]
  rfl

/-- `KeyBundle::as_blob` of keys of lib3h_sodium's sizes encrypts the bundle's layout. -/
theorem KeyBundle.asBlob_eq (x : KeyBundle)
    (hsign : KeyPair.decodePubKey codecHcs0 x.signKeys.publicKey = .ok signKey)
    (henc : KeyPair.decodePubKey codecHck0 x.encKeys.publicKey = .ok encKey)
    (hsizes : KeyBundleSizes signKey encKey x.signKeys.privateKey x.encKeys.privateKey) :
    x.asBlob cipher codecHcs0 codecHck0 passphrase hint config =
      .ok ((cipher.encryptWithPassphraseBuf
        (keyBundleLayout signKey encKey x.signKeys.privateKey x.encKeys.privateKey) passphrase
          config).map fun encodedBlob => ⟨.keyBundle, .mock, hint, encodedBlob⟩) := by
  obtain ⟨h1, h2, h3, h4⟩ := hsizes
  have hsize : keybundleBlobSizeAligned = 168 := rfl
  have hkeys : signPublicKeyBytes = 32 ∧ kxPublicKeyBytes = 32 ∧ signSecretKeyBytes = 64 ∧
      kxSecretKeyBytes = 32 := ⟨rfl, rfl, rfl, rfl⟩
  -- the five writes, each right after the one before
  have hversion : SecBuf.write (SecBuf.withSecure keybundleBlobSizeAligned) 0
      [keybundleBlobFormatVersion] =
      .ok ([keybundleBlobFormatVersion] ++ List.replicate (keybundleBlobSizeAligned - 1) 0) := by
    have h := SecBuf.write_append_replicate [] [keybundleBlobFormatVersion]
      (k := keybundleBlobSizeAligned) rfl (by rw [List.length_singleton]; omega)
    rwa [List.nil_append, List.nil_append] at h
  have hw1 : SecBuf.write
      ([keybundleBlobFormatVersion] ++ List.replicate (keybundleBlobSizeAligned - 1) 0) (0 + 1)
      signKey = .ok (([keybundleBlobFormatVersion] ++ signKey) ++
        List.replicate (keybundleBlobSizeAligned - 1 - signKey.length) 0) :=
    SecBuf.write_append_replicate _ _ rfl (by omega)
  have hw2 : SecBuf.write (([keybundleBlobFormatVersion] ++ signKey) ++
      List.replicate (keybundleBlobSizeAligned - 1 - signKey.length) 0)
      (0 + 1 + signPublicKeyBytes) encKey =
      .ok ((([keybundleBlobFormatVersion] ++ signKey) ++ encKey) ++
        List.replicate (keybundleBlobSizeAligned - 1 - signKey.length - encKey.length) 0) :=
    SecBuf.write_append_replicate _ _ (by rw [List.length_append, List.length_singleton, h1])
      (by omega)
  have hw3 : SecBuf.write ((([keybundleBlobFormatVersion] ++ signKey) ++ encKey) ++
      List.replicate (keybundleBlobSizeAligned - 1 - signKey.length - encKey.length) 0)
      (0 + 1 + signPublicKeyBytes + kxPublicKeyBytes) x.signKeys.privateKey =
      .ok (((([keybundleBlobFormatVersion] ++ signKey) ++ encKey) ++ x.signKeys.privateKey) ++
        List.replicate (keybundleBlobSizeAligned - 1 - signKey.length - encKey.length -
          x.signKeys.privateKey.length) 0) :=
    SecBuf.write_append_replicate _ _
      (by rw [List.length_append, List.length_append, List.length_singleton, h1, h2]) (by omega)
  have hw4 : SecBuf.write (((([keybundleBlobFormatVersion] ++ signKey) ++ encKey) ++
      x.signKeys.privateKey) ++ List.replicate (keybundleBlobSizeAligned - 1 - signKey.length -
        encKey.length - x.signKeys.privateKey.length) 0)
      (0 + 1 + signPublicKeyBytes + kxPublicKeyBytes + signSecretKeyBytes) x.encKeys.privateKey =
      .ok (keyBundleLayout signKey encKey x.signKeys.privateKey x.encKeys.privateKey) :=
    SecBuf.write_append_replicate _ _ (by
      rw [List.length_append, List.length_append, List.length_append, List.length_singleton, h1,
        h2, h3]) (by omega)
  have hassert1 : assertEq signPublicKeyBytes signKey.length = .ok () := by
    rw [h1]
    exact assertEq_self _
  have hassert2 : assertEq kxPublicKeyBytes encKey.length = .ok () := by
    rw [h2]
    exact assertEq_self _
  have hlen := length_keyBundleLayout ⟨h1, h2, h3, h4⟩
  unfold KeyBundle.asBlob
  simp only [hversion, resultExpect_ok, Except.ok_bind, hsign, henc, hassert1, hassert2, hw1,
    hw2, hw3, hw4, finalizeBlobbing_of_length cipher hlen]
  rfl

/-- `KeyBundle::from_blob` of the bundle's layout gives the keys back: the slices it
hard-codes are where `as_blob` wrote. -/
theorem KeyBundle.fromBlob_of_unblob
    (hunblob : unblob cipher .keyBundle keybundleBlobSizeAligned blob passphrase config =
      .ok (keyBundleLayout signKey encKey signPrivate encPrivate))
    (hsizes : KeyBundleSizes signKey encKey signPrivate encPrivate)
    (hsign : codecHcs0.encode signKey = .ok signPublic)
    (henc : codecHck0.encode encKey = .ok encPublic) :
    KeyBundle.fromBlob cipher codecHcs0 codecHck0 blob passphrase config =
      .ok (.ok ⟨⟨signPublic, signPrivate⟩, ⟨encPublic, encPrivate⟩⟩) := by
  obtain ⟨h1, h2, h3, h4⟩ := hsizes
  -- where each part of the layout ends
  have hl1 : ([keybundleBlobFormatVersion] ++ signKey).length = 33 := by
    rw [List.length_append, List.length_singleton, h1]; rfl
  have hl2 : ([keybundleBlobFormatVersion] ++ signKey ++ encKey).length = 65 := by
    rw [List.length_append, hl1, h2]; rfl
  have hl3 : ([keybundleBlobFormatVersion] ++ signKey ++ encKey ++ signPrivate).length = 129 := by
    rw [List.length_append, hl2, h3]; rfl
  have hl4 : ([keybundleBlobFormatVersion] ++ signKey ++ encKey ++ signPrivate ++
      encPrivate).length = 161 := by
    rw [List.length_append, hl3, h4]; rfl
  -- each hard-coded slice ends inside the parts up to its key, and is that key
  have hslice1 : sliceRange (keyBundleLayout signKey encKey signPrivate encPrivate) 1 33 =
      .ok signKey := by
    apply sliceRange_of_slice
    rw [keyBundleLayout, ByteBuf.slice_append_of_le_length _ _ (by omega),
      ByteBuf.slice_append_of_le_length _ _ (by omega),
      ByteBuf.slice_append_of_le_length _ _ (by omega)]
    exact ByteBuf.slice_append_append _ _ _ rfl (by rw [List.length_singleton, h1]; rfl)
  have hslice2 : sliceRange (keyBundleLayout signKey encKey signPrivate encPrivate) 33 65 =
      .ok encKey := by
    apply sliceRange_of_slice
    rw [keyBundleLayout, ByteBuf.slice_append_of_le_length _ _ (by omega),
      ByteBuf.slice_append_of_le_length _ _ (by omega)]
    exact ByteBuf.slice_append_append _ _ _ hl1.symm (by rw [hl1, h2]; rfl)
  have hslice3 : sliceRange (keyBundleLayout signKey encKey signPrivate encPrivate) 65 129 =
      .ok signPrivate := by
    apply sliceRange_of_slice
    rw [keyBundleLayout, ByteBuf.slice_append_of_le_length _ _ (by omega)]
    exact ByteBuf.slice_append_append _ _ _ hl2.symm (by rw [hl2, h3]; rfl)
  have hslice4 : sliceRange (keyBundleLayout signKey encKey signPrivate encPrivate) 129 161 =
      .ok encPrivate :=
    sliceRange_of_slice (ByteBuf.slice_append_append _ _ _ hl3.symm (by rw [hl3, h4]; rfl))
  have hversion : index (keyBundleLayout signKey encKey signPrivate encPrivate) 0 =
      .ok keybundleBlobFormatVersion := rfl
  unfold KeyBundle.fromBlob
  -- each key is written into a fresh buffer of its own size
  simp only [hunblob, hversion, Except.ok_bind, ne_eq, not_true_eq_false, if_false, hslice1,
    SecBuf.write_withInsecure h1, hslice2, SecBuf.write_withInsecure h2, hslice3,
    SecBuf.write_withSecure h3, hslice4, SecBuf.write_withSecure h4, KeyPair.encodePubKey_of_encode (h1.trans rfl) hsign,
    KeyPair.encodePubKey_of_encode (h2.trans rfl) henc]
  rfl

/-- The round trip of a key bundle whose public keys are the HCID texts of keys of
lib3h_sodium's sizes and whose private keys have their sizes. -/
theorem KeyBundle.fromBlob_asBlob (hinv : cipher.Inverts) (hhcs0 : codecHcs0.DecodesEncoded)
    (hhck0 : codecHck0.DecodesEncoded) (x : KeyBundle)
    (hsign : codecHcs0.encode signKey = .ok x.signKeys.publicKey)
    (henc : codecHck0.encode encKey = .ok x.encKeys.publicKey)
    (hsizes : KeyBundleSizes signKey encKey x.signKeys.privateKey x.encKeys.privateKey) :
    ∃ r, x.asBlob cipher codecHcs0 codecHck0 passphrase hint config = .ok r ∧
      ∀ blob, r = .ok blob →
        KeyBundle.fromBlob cipher codecHcs0 codecHck0 blob passphrase config = .ok (.ok x) := by
  refine ⟨_, KeyBundle.asBlob_eq cipher x (KeyPair.decodePubKey_of_encode hhcs0 hsign)
    (KeyPair.decodePubKey_of_encode hhck0 henc) hsizes, fun blob hblob => ?_⟩
  -- the blob holds the encrypted layout
  obtain ⟨text, hencrypt, rfl⟩ := encrypted_of_map_eq_ok cipher hblob
  exact KeyBundle.fromBlob_of_unblob cipher
    (unblob_of_encrypt cipher hinv hencrypt (length_keyBundleLayout hsizes) _ _) hsizes hsign henc

theorem KeyBundle.fromBlob_of_blobType_ne (h : blob.blobType ≠ .keyBundle) :
    KeyBundle.fromBlob cipher codecHcs0 codecHck0 blob passphrase config =
      .ok (.error (.errorGeneric "Blob type mismatch while unblobbing")) := by
  unfold KeyBundle.fromBlob
  rw [unblob_of_blobType_ne cipher h]
  rfl

theorem KeyBundle.fromBlob_of_version_ne {version : UInt8} {rest : SecBuf}
    (htype : blob.blobType = .keyBundle)
    (hdecrypt : cipher.decryptWithPassphraseBuf blob.data passphrase config
      keybundleBlobSizeAligned = .ok (version :: rest))
    (hversion : version ≠ keybundleBlobFormatVersion) :
    KeyBundle.fromBlob cipher codecHcs0 codecHck0 blob passphrase config =
      .ok (.error (.errorGeneric
        s!"Invalid KeyBundle Blob Format: v{version} != v{keybundleBlobFormatVersion}")) := by
  unfold KeyBundle.fromBlob
  rw [unblob_of_blobType_eq cipher htype, hdecrypt]
  simp only [index, List.getElem?_cons_zero, Except.pure_eq_ok, Except.ok_bind, ne_eq, hversion,
    not_false_eq_true, if_true]

end KeyBundle

/-! ### The seed -/

section Seed

variable (cipher : PassphraseCipher) {passphrase : SecBuf} {hint : String}
  {config : Option PwHashConfig} {blob : KeyBlob}

/-- The round trip of a seed of `SEED_SIZE` bytes: its bytes and its seed type come back. -/
theorem Seed.fromBlob_asBlob (hinv : cipher.Inverts) (x : Seed) (hbuf : x.buf.length = seedSize)
    (h : x.asBlob cipher passphrase hint config = .ok blob) :
    Seed.fromBlob cipher blob passphrase config = .ok (.ok x) := by
  -- `as_blob` encrypts the seed's buffer as it is
  obtain ⟨text, hencrypt, hblob⟩ := Except.bind_eq_ok.mp h
  rw [finalizeBlobbing_of_length cipher hbuf] at hencrypt
  have hblob' : blob = ⟨.seed, x.kind, hint, text⟩ := (Except.ok.inj hblob).symm
  subst hblob'
  have hunblob : unblob cipher .seed seedSize ⟨.seed, x.kind, hint, text⟩ passphrase config =
      .ok x.buf :=
    unblob_of_encrypt cipher hinv hencrypt hbuf x.kind hint
  simp [Seed.fromBlob, hunblob, Seed.new, hbuf]

theorem Seed.fromBlob_of_blobType_ne (h : blob.blobType ≠ .seed) :
    Seed.fromBlob cipher blob passphrase config =
      .ok (.error (.errorGeneric "Blob type mismatch while unblobbing")) := by
  unfold Seed.fromBlob
  rw [unblob_of_blobType_ne cipher h]
  rfl

end Seed

/-! ### The four blob kinds -/

/-- What the key blobs promise, for a cipher and the HCID codecs of the signing and the
encrypting keys: `from_blob` of what `as_blob` wrote gives back a seed of `SEED_SIZE` bytes,
and a key bundle or key pair whose public keys are the HCID texts of keys of lib3h_sodium's
sizes and whose private keys have theirs; a blob of another type is refused, and so is one
whose buffer starts with another version byte. -/
structure KeyBlobRoundTrips (cipher : PassphraseCipher) (codecHcs0 codecHck0 : HcidEncoding) :
    Prop where
  seed : ∀ (x : Seed) (passphrase : SecBuf) (hint : String) (config : Option PwHashConfig)
    (blob : KeyBlob), x.buf.length = seedSize → x.asBlob cipher passphrase hint config = .ok blob →
    Seed.fromBlob cipher blob passphrase config = .ok (.ok x)
  keyBundle : ∀ (x : KeyBundle) (passphrase : SecBuf) (hint : String)
    (config : Option PwHashConfig),
    codecHcs0.Encodes signPublicKeyBytes x.signKeys.publicKey →
    codecHck0.Encodes kxPublicKeyBytes x.encKeys.publicKey →
    x.signKeys.privateKey.length = signSecretKeyBytes →
    x.encKeys.privateKey.length = kxSecretKeyBytes →
    ∃ r, x.asBlob cipher codecHcs0 codecHck0 passphrase hint config = .ok r ∧
      ∀ blob, r = .ok blob →
        KeyBundle.fromBlob cipher codecHcs0 codecHck0 blob passphrase config = .ok (.ok x)
  signingKey : ∀ (x : SigningKeyPair) (passphrase : SecBuf) (hint : String)
    (config : Option PwHashConfig),
    codecHcs0.Encodes signPublicKeyBytes x.publicKey →
    x.privateKey.length = signSecretKeyBytes →
    ∃ r, x.asBlob cipher codecHcs0 passphrase hint config = .ok r ∧
      ∀ blob, r = .ok blob →
        SigningKeyPair.fromBlob cipher codecHcs0 blob passphrase config = .ok (.ok x)
  encryptingKey : ∀ (x : EncryptingKeyPair) (passphrase : SecBuf) (hint : String)
    (config : Option PwHashConfig),
    codecHck0.Encodes kxPublicKeyBytes x.publicKey →
    x.privateKey.length = kxSecretKeyBytes →
    ∃ r, x.asBlob cipher codecHck0 passphrase hint config = .ok r ∧
      ∀ blob, r = .ok blob →
        EncryptingKeyPair.fromBlob cipher codecHck0 blob passphrase config = .ok (.ok x)
  seedOtherType : ∀ (blob : KeyBlob) (passphrase : SecBuf) (config : Option PwHashConfig),
    blob.blobType ≠ .seed → ∃ e, Seed.fromBlob cipher blob passphrase config = .ok (.error e)
  keyBundleOtherType : ∀ (blob : KeyBlob) (passphrase : SecBuf) (config : Option PwHashConfig),
    blob.blobType ≠ .keyBundle →
    ∃ e, KeyBundle.fromBlob cipher codecHcs0 codecHck0 blob passphrase config = .ok (.error e)
  signingKeyOtherType : ∀ (blob : KeyBlob) (passphrase : SecBuf) (config : Option PwHashConfig),
    blob.blobType ≠ .signingKey →
    ∃ e, SigningKeyPair.fromBlob cipher codecHcs0 blob passphrase config = .ok (.error e)
  encryptingKeyOtherType : ∀ (blob : KeyBlob) (passphrase : SecBuf)
    (config : Option PwHashConfig), blob.blobType ≠ .encryptingKey →
    ∃ e, EncryptingKeyPair.fromBlob cipher codecHck0 blob passphrase config = .ok (.error e)
  keyBundleOtherVersion : ∀ (blob : KeyBlob) (passphrase : SecBuf)
    (config : Option PwHashConfig) (version : UInt8) (rest : SecBuf),
    blob.blobType = .keyBundle →
    cipher.decryptWithPassphraseBuf blob.data passphrase config keybundleBlobSizeAligned =
      .ok (version :: rest) → version ≠ keybundleBlobFormatVersion →
    ∃ e, KeyBundle.fromBlob cipher codecHcs0 codecHck0 blob passphrase config = .ok (.error e)
  signingKeyOtherVersion : ∀ (blob : KeyBlob) (passphrase : SecBuf)
    (config : Option PwHashConfig) (version : UInt8) (rest : SecBuf),
    blob.blobType = .signingKey →
    cipher.decryptWithPassphraseBuf blob.data passphrase config signingKeyBlobSizeAligned =
      .ok (version :: rest) → version ≠ signingKeyBlobFormatVersion →
    ∃ e, SigningKeyPair.fromBlob cipher codecHcs0 blob passphrase config = .ok (.error e)
  encryptingKeyOtherVersion : ∀ (blob : KeyBlob) (passphrase : SecBuf)
    (config : Option PwHashConfig) (version : UInt8) (rest : SecBuf),
    blob.blobType = .encryptingKey →
    cipher.decryptWithPassphraseBuf blob.data passphrase config encryptingKeyBlobSizeAligned =
      .ok (version :: rest) → version ≠ encryptingKeyBlobFormatVersion →
    ∃ e, EncryptingKeyPair.fromBlob cipher codecHck0 blob passphrase config = .ok (.error e)

/-- With the cipher and the codecs inverting themselves, the key blobs round-trip and refuse
what is not theirs. The key pairs are the two instances of `keyPairAsBlob` and
`keyPairFromBlob`, whose formats are consistent. -/
theorem key_blob_round_trips (cipher : PassphraseCipher) (codecHcs0 codecHck0 : HcidEncoding)
    (hinv : cipher.Inverts) (hhcs0 : codecHcs0.DecodesEncoded)
    (hhck0 : codecHck0.DecodesEncoded) : KeyBlobRoundTrips cipher codecHcs0 codecHck0 where
  seed x _ _ _ _ hbuf h := Seed.fromBlob_asBlob cipher hinv x hbuf h
  keyBundle x _ _ _ := by
    rintro ⟨signKey, hsignKey, hsign⟩ ⟨encKey, hencKey, henc⟩ hsignPrivate hencPrivate
    exact KeyBundle.fromBlob_asBlob cipher hinv hhcs0 hhck0 x hsign henc
      ⟨hsignKey, hencKey, hsignPrivate, hencPrivate⟩
  signingKey x _ _ _ := by
    rintro ⟨key, hkey, hencode⟩ hpriv
    exact keyPairFromBlob_keyPairAsBlob cipher SigningKeyPair.new hinv hhcs0
      signingKeyBlobFormat_consistent hencode hkey hpriv
  encryptingKey x _ _ _ := by
    rintro ⟨key, hkey, hencode⟩ hpriv
    exact keyPairFromBlob_keyPairAsBlob cipher EncryptingKeyPair.new hinv hhck0
      encryptingKeyBlobFormat_consistent hencode hkey hpriv
  seedOtherType _ _ _ h := ⟨_, Seed.fromBlob_of_blobType_ne cipher h⟩
  keyBundleOtherType _ _ _ h := ⟨_, KeyBundle.fromBlob_of_blobType_ne cipher h⟩
  signingKeyOtherType _ _ _ h := ⟨_, keyPairFromBlob_of_blobType_ne cipher SigningKeyPair.new h⟩
  encryptingKeyOtherType _ _ _ h :=
    ⟨_, keyPairFromBlob_of_blobType_ne cipher EncryptingKeyPair.new h⟩
  keyBundleOtherVersion _ _ _ _ _ htype hdecrypt hversion :=
    ⟨_, KeyBundle.fromBlob_of_version_ne cipher htype hdecrypt hversion⟩
  signingKeyOtherVersion _ _ _ _ _ htype hdecrypt hversion :=
    ⟨_, keyPairFromBlob_of_version_ne cipher SigningKeyPair.new htype hdecrypt hversion⟩
  encryptingKeyOtherVersion _ _ _ _ _ htype hdecrypt hversion :=
    ⟨_, keyPairFromBlob_of_version_ne cipher EncryptingKeyPair.new htype hdecrypt hversion⟩

/-! #### A cipher and a codec that meet the assumptions -/

/-- The text with one character per byte. -/
def latin1Text (bytes : List UInt8) : String :=
  String.ofList (bytes.map Char.ofUInt8)

/-- The bytes of a text's characters, one per character. -/
def latin1Bytes (text : String) : List UInt8 :=
  text.toList.map Char.toUInt8

theorem latin1Bytes_latin1Text (bytes : List UInt8) : latin1Bytes (latin1Text bytes) = bytes := by
  -- a byte's character has the byte as its code
  have hbyte : ∀ b : UInt8, (Char.ofUInt8 b).toUInt8 = b := fun b => UInt8.toUInt8_toUInt32 b
  rw [latin1Bytes, latin1Text, String.toList_ofList, List.map_map]
  exact List.map_id'' hbyte bytes

/-- A codec writing each byte as one character. -/
def latin1Codec : HcidEncoding :=
  ⟨fun bytes => .ok (latin1Text bytes), fun text => .ok (latin1Bytes text)⟩

/-- A cipher writing each byte as one character, whatever the passphrase. -/
def latin1Cipher : PassphraseCipher :=
  ⟨fun data _ _ => .ok (latin1Text data), fun text _ _ _ => .ok (latin1Bytes text)⟩

theorem latin1Codec_decodesEncoded : latin1Codec.DecodesEncoded := by
  intro key text hencode
  cases hencode
  exact congrArg Except.ok (latin1Bytes_latin1Text key)

theorem latin1Cipher_inverts : latin1Cipher.Inverts := by
  intro data passphrase config text hencrypt
  cases hencrypt
  have hbytes : latin1Bytes (latin1Text data) = data := latin1Bytes_latin1Text data
  simp [PassphraseCipher.decryptWithPassphraseBuf, latin1Cipher, hbytes]

theorem key_blob_round_trips_latin1 :
    latin1Cipher.Inverts ∧ latin1Codec.DecodesEncoded ∧
      KeyBlobRoundTrips latin1Cipher latin1Codec latin1Codec :=
  ⟨latin1Cipher_inverts, latin1Codec_decodesEncoded,
    key_blob_round_trips latin1Cipher latin1Codec latin1Codec latin1Cipher_inverts
      latin1Codec_decodesEncoded latin1Codec_decodesEncoded⟩

end Holochain.Dpki
