import Web3Id.Construction.Issuer.TelegramUser
import Web3Id.Library.KeyedLines

namespace Web3Id.SomeIssuer

open Library.KeyedLines

/-- The fields stand in the order of their lines. -/
def User.fields (self : User) : List (KeyedField Char) :=
  [.required "auth_date=".toList (Nat.toDigits 10 self.authDate.toNat),
    .required "first_name=".toList self.firstName.toList,
    .required "id=".toList (Nat.toDigits 10 self.id.toNat),
    .optional "last_name=".toList (self.lastName.map String.toList),
    .optional "photo_url=".toList (self.photoUrl.map String.toList),
    .optional "username=".toList (self.username.map String.toList)]

/-- The string is the encoding of the fields, without the mark of the first line. -/
theorem User.dataCheckString_encode (self : User) :
    '\n' :: self.dataCheckString.toList = encode '\n' self.fields := by
  obtain ⟨id, firstName, lastName, username, photoUrl, authDate, hash⟩ := self
  have digits : ∀ number : UInt64, (toString number).toList = Nat.toDigits 10 number.toNat :=
    fun number => Nat.toList_repr
  have texts : ∀ text : String, toString text = text := fun text => rfl
  cases lastName <;> cases photoUrl <;> cases username <;>
    simp [dataCheckString, fields, encode, KeyedField.value, KeyedField.key, digits, texts]

/-- The decimal digits of a number determine it, and have no line break. -/
theorem digits_injective {one other : UInt64}
    (same : Nat.toDigits 10 one.toNat = Nat.toDigits 10 other.toNat) : one = other := by
  have parsed := congrArg (fun digits => Nat.ofDigitChars 10 digits 0) same
  exact UInt64.toNat_inj.mp (by simpa using parsed)

theorem digits_unmarked (number : Nat) : '\n' ∉ Nat.toDigits 10 number := by
  intro listed
  have digit := Nat.isDigit_of_mem_toDigits (by decide) (by decide) listed
  exact absurd digit (by decide)

/-- No text of the user looks like the line that comes after it. -/
structure User.Unambiguous (user : User) : Prop where
  firstName : Free '\n' "id=".toList user.firstName.toList
  lastName : ∀ lastName ∈ user.lastName,
    ∀ key ∈ ["photo_url=".toList, "username=".toList], Free '\n' key lastName.toList
  photoUrl : ∀ photoUrl ∈ user.photoUrl, Free '\n' "username=".toList photoUrl.toList

/-- Two users agree on everything that Telegram signs. -/
structure User.Agrees (user other : User) : Prop where
  id : user.id = other.id
  authDate : user.authDate = other.authDate
  firstName : user.firstName = other.firstName
  lastName : user.lastName = other.lastName
  photoUrl : user.photoUrl = other.photoUrl
  username : user.username = other.username

theorem User.Unambiguous.readable {user : User} (unambiguous : user.Unambiguous) :
    Readable '\n' user.fields := by
  obtain ⟨firstName, lastName, photoUrl⟩ := unambiguous
  have digits : ∀ number key, Free '\n' key (Nat.toDigits 10 number) :=
    fun number => .of_unmarked (digits_unmarked number)
  simp only [fields, Readable, KeyedField.key, nextKeys, KeyedField.value, Option.mem_def]
  refine ⟨by decide, by decide, ?_, by decide, by decide, ?_, by decide, by decide, ?_,
    by decide, by decide, ?_, by decide, by decide, ?_, by decide, by decide, ?_, trivial⟩
  · rintro value ⟨⟩ other -
    exact digits _ _
  · rintro value ⟨⟩ other listed
    cases List.mem_singleton.mp listed
    exact firstName
  · rintro value ⟨⟩ other -
    exact digits _ _
  · rintro value found other listed
    obtain ⟨text, present, rfl⟩ := Option.map_eq_some_iff.mp found
    exact lastName text present other listed
  · rintro value found other listed
    obtain ⟨text, present, rfl⟩ := Option.map_eq_some_iff.mp found
    cases List.mem_singleton.mp listed
    exact photoUrl text present
  · intro value found other listed
    exact absurd listed List.not_mem_nil

theorem User.fields_shape (user other : User) :
    List.Forall₂ KeyedField.SameShape user.fields other.fields := by
  simp [fields, KeyedField.SameShape.required, KeyedField.SameShape.optional]

/-- Equal fields are equal values, because texts are their characters and numbers their digits. -/
theorem User.agrees_of_fields {user other : User} (same : user.fields = other.fields) :
    user.Agrees other := by
  have texts : Function.Injective (Option.map String.toList) :=
    Option.map_injective fun _ _ => String.toList_inj.mp
  simp only [fields, List.cons.injEq, KeyedField.required.injEq, KeyedField.optional.injEq,
    true_and, and_true] at same
  obtain ⟨authDate, firstName, id, lastName, photoUrl, username⟩ := same
  exact ⟨digits_injective id, digits_injective authDate, String.toList_inj.mp firstName,
    texts lastName, texts photoUrl, texts username⟩

/-- The texts of the user have no line for an id or for a username. -/
def User.Sealed (self : User) : Prop :=
  ∀ key ∈ ["id=".toList, "username=".toList],
    ∀ text ∈ self.firstName :: (self.lastName.toList ++ self.photoUrl.toList ++
      self.username.toList), Free '\n' key text.toList

/-- A line for an id or for a username can only be the line of that field. -/
theorem User.Sealed.free {user : User} (safe : user.Sealed) {key : List Char}
    (listed : key ∈ ["id=".toList, "username=".toList]) :
    ∀ field ∈ user.fields, ∀ value ∈ field.value, Free '\n' key value := by
  have texts := safe key listed
  have digits : ∀ number, Free '\n' key (Nat.toDigits 10 number) :=
    fun number => .of_unmarked (digits_unmarked number) key
  have optional : ∀ text : Option String, (∀ present ∈ text, Free '\n' key present.toList) →
      ∀ value, text.map String.toList = some value → Free '\n' key value := by
    rintro text free value found
    obtain ⟨present, held, rfl⟩ := Option.map_eq_some_iff.mp found
    exact free present held
  simp only [List.forall_mem_cons, List.mem_append, Option.mem_toList, or_imp, forall_and] at texts
  obtain ⟨firstName, ⟨lastName, photoUrl⟩, username⟩ := texts
  simp only [fields, List.forall_mem_cons, KeyedField.value, Option.mem_def, Option.some.injEq,
    forall_eq']
  exact ⟨digits _, firstName, digits _, optional _ lastName, optional _ photoUrl,
    optional _ username, fun _ absurd => nomatch absurd⟩

/-- The keys of the lines are fixed. -/
def fieldKeys : List (List Char) :=
  ["auth_date=".toList, "first_name=".toList, "id=".toList, "last_name=".toList,
    "photo_url=".toList, "username=".toList]

theorem User.fields_keys (user : User) : user.fields.map KeyedField.key = fieldKeys := rfl

theorem fieldKeys_unmarked : ∀ key ∈ fieldKeys, '\n' ∉ key := by decide

theorem fieldKeys_apart :
    ∀ key ∈ fieldKeys, ∀ other ∈ fieldKeys, key ≠ other → Apart key other := by
  decide

/-- The other fields of a sealed user are silent. -/
theorem User.Sealed.silent {user : User} (safe : user.Sealed) {key : List Char}
    (listed : key ∈ ["id=".toList, "username=".toList]) {field : KeyedField Char}
    (held : field ∈ user.fields) (different : field.key ≠ key) : Silent '\n' key field := by
  have known : field.key ∈ fieldKeys := user.fields_keys ▸ List.mem_map_of_mem held
  have lines : ∀ key ∈ ["id=".toList, "username=".toList], key ∈ fieldKeys := by decide
  exact ⟨fieldKeys_apart _ known _ (lines key listed) different, fieldKeys_unmarked _ known,
    safe.free listed field held⟩

section Reads

variable {user other : User}

/-- A line break with one of the two keys stands only where the field with the key stands. -/
theorem User.Sealed.line {earlier later : List (KeyedField Char)} {field : KeyedField Char}
    {key before after : List Char} (safe : user.Sealed)
    (listed : key ∈ ["id=".toList, "username=".toList]) (keyed : field.key = key)
    (split : user.fields = earlier ++ field :: later)
    (line : before ++ '\n' :: (key ++ after) = encode '\n' user.fields) :
    before = encode '\n' earlier ∧
      ∃ value, field.value = some value ∧ after = value ++ encode '\n' later := by
  subst keyed
  have held : field ∈ user.fields := by simp [split]
  have distinct : (user.fields.map KeyedField.key).Nodup := user.fields_keys ▸ by decide
  rw [split, List.map_append, List.map_cons, List.perm_middle.nodup_iff, List.nodup_cons,
    ← List.map_append] at distinct
  have others : ∀ other ∈ earlier ++ later, Silent '\n' field.key other := by
    intro other member
    refine safe.silent listed ?_ fun equal => distinct.1 (equal ▸ List.mem_map_of_mem member)
    rw [split]
    exact List.mem_append.mpr ((List.mem_append.mp member).imp_right (List.mem_cons_of_mem _))
  rw [split] at line
  exact encode_reads (fieldKeys_unmarked _ (user.fields_keys ▸ List.mem_map_of_mem held))
    (safe.free listed field held) others line

/-- The fields of the lines before and behind the id. -/
def User.opening (self : User) : List (KeyedField Char) := self.fields.take 2

def User.closing (self : User) : List (KeyedField Char) := self.fields.drop 3

theorem User.fields_id (user : User) : user.fields =
    user.opening ++ .required "id=".toList (Nat.toDigits 10 user.id.toNat) :: user.closing := rfl

theorem User.fields_username (user : User) : user.fields =
    user.fields.take 5 ++ [.optional "username=".toList (user.username.map String.toList)] := rfl

theorem User.opening_readable (user : User) : Readable '\n' user.opening := by
  have digits := Free.of_unmarked (digits_unmarked user.authDate.toNat)
  simp only [opening, fields, List.take, Readable, KeyedField.key, nextKeys, KeyedField.value,
    List.forall_mem_singleton, Option.mem_def, Option.some.injEq, forall_eq', digits]
  exact ⟨by decide, by decide, trivial, by decide, by simp⟩

/-- The id of a sealed user is the id of every user with the same string. -/
theorem User.Sealed.id_reads (safe : user.Sealed)
    (same : encode '\n' user.fields = encode '\n' other.fields) :
    other.id = user.id ∧ other.authDate = user.authDate ∧ other.firstName = user.firstName := by
  have line : encode '\n' other.opening ++
      '\n' :: ("id=".toList ++ (Nat.toDigits 10 other.id.toNat ++ encode '\n' other.closing)) =
      encode '\n' user.fields := by
    rw [same]
    exact (encode_append other.opening (.required "id=".toList _ :: other.closing)).symm
  obtain ⟨opening, value, ⟨⟩, closing⟩ :=
    safe.line List.mem_cons_self rfl user.fields_id line
  have shape := other.fields_shape user
  have behind : nextKeys other.closing = nextKeys user.closing :=
    nextKeys_shape (List.forall₂_drop 3 shape)
  have digits : ∀ number, ∀ key ∈ nextKeys user.closing, Free '\n' key (Nat.toDigits 10 number) :=
    fun number key _ => .of_unmarked (digits_unmarked number) key
  have unmarked : ∀ key ∈ nextKeys user.closing, '\n' ∉ key := by
    intro key listed
    exact fieldKeys_unmarked key (List.mem_of_mem_drop (i := 3) listed)
  obtain ⟨id, -⟩ := Free.split unmarked (digits _) (digits _)
    (behind ▸ encode_begins other.closing) (encode_begins user.closing) closing
  have before : other.opening = user.opening := encode_injective (List.forall₂_take 2 shape)
    other.opening_readable user.opening_readable opening
  simp only [User.opening, User.fields, List.take_succ_cons, List.take_zero, List.cons.injEq,
    KeyedField.required.injEq, true_and, and_true] at before
  exact ⟨digits_injective id, digits_injective before.1, String.toList_inj.mp before.2⟩

/-- A username in the string of a sealed user is the username of that user. -/
theorem User.Sealed.username_reads (safe : user.Sealed)
    (same : encode '\n' user.fields = encode '\n' other.fields) :
    ∀ username ∈ other.username, user.username = some username := by
  intro username present
  have line : encode '\n' (other.fields.take 5) ++
      '\n' :: ("username=".toList ++ username.toList) = encode '\n' user.fields := by
    rw [same]
    have last : encode '\n' [.optional "username=".toList (other.username.map String.toList)] =
        '\n' :: ("username=".toList ++ username.toList) := by
      rw [Option.mem_def.mp present]
      simp [encode, KeyedField.value, KeyedField.key]
    rw [← last]
    exact (encode_append (other.fields.take 5) _).symm
  obtain ⟨-, value, found, text⟩ :=
    safe.line (List.mem_cons_of_mem _ List.mem_cons_self) rfl user.fields_username line
  obtain ⟨held, stored, rfl⟩ := Option.map_eq_some_iff.mp found
  rw [stored]
  simpa [encode, String.toList_inj, eq_comm] using text

end Reads

/-- No other message has the digest of the text under the key of the token. -/
def Digests.Unique (digests : Digests) (token text : String) : Prop :=
  ∀ message, digests.hmacSha256 (digests.sha256 token.toUTF8.data.toList) message =
    digests.hmacSha256 (digests.sha256 token.toUTF8.data.toList) text.toUTF8.data.toList →
    message = text.toUTF8.data.toList

/-- Users that pass the check with one hash have one string. -/
theorem User.check_string {digests : Digests} {token : String} {user other : User}
    (unique : digests.Unique token user.dataCheckString)
    (issued : user.check digests token = .ok ()) (hash : other.hash = user.hash)
    (accepted : other.check digests token = .ok ()) :
    user.dataCheckString = other.dataCheckString := by
  simp only [check, hash] at issued accepted
  cases decoded : hexDecode user.hash with
  | error error => simp [decoded, Except.mapError, bind, Except.bind] at issued
  | ok expected =>
      simp only [decoded, Except.mapError, bind, Except.bind, ite_eq_left_iff, reduceCtorEq,
        imp_false, not_not] at issued accepted
      have bytes := unique _ (accepted.trans issued.symm)
      exact (String.toByteArray_inj.mp (ByteArray.ext (Array.toList_inj.mp bytes))).symm

/-- Users whose texts do not look like the next line have different strings, and the hash of a
user whose texts look like no id and no username is good for that id and username only. -/
theorem User.dataCheckString_reads :
    (∀ user other : User, user.Unambiguous → other.Unambiguous →
      user.dataCheckString = other.dataCheckString → user.Agrees other) ∧
    (∀ user other : User, user.Sealed → user.dataCheckString = other.dataCheckString →
      other.id = user.id ∧ other.authDate = user.authDate ∧ other.firstName = user.firstName ∧
        ∀ username ∈ other.username, user.username = some username) ∧
    ∀ (digests : Digests) (token : String) (user other : User), user.Sealed →
      digests.Unique token user.dataCheckString →
      user.check digests token = .ok () → other.hash = user.hash →
      other.check digests token = .ok () →
      other.id = user.id ∧ ∀ username ∈ other.username, user.username = some username := by
  have codes : ∀ {user other : User}, user.dataCheckString = other.dataCheckString →
      encode '\n' user.fields = encode '\n' other.fields := by
    intro user other same
    rw [← dataCheckString_encode, ← dataCheckString_encode, same]
  refine ⟨?_, ?_, ?_⟩
  · intro user other unambiguous too same
    exact agrees_of_fields
      (encode_injective (user.fields_shape other) unambiguous.readable too.readable (codes same))
  · intro user other safe same
    obtain ⟨id, authDate, firstName⟩ := safe.id_reads (codes same)
    exact ⟨id, authDate, firstName, safe.username_reads (codes same)⟩
  · intro digests token user other safe unique issued hash accepted
    have same := codes (check_string unique issued hash accepted)
    exact ⟨(safe.id_reads same).1, safe.username_reads same⟩

def sampleUser : User :=
  { id := 7, firstName := "Ada", lastName := none, username := some "ada", photoUrl := none,
    authDate := 1700000000,
    hash := "def763db4c0ab96b81824031d634a1e2fc4cf65ca56b65f2c8525d982dfc9274" }

/-- The last name of one user holds the line for the photo of another one. -/
def photoUser : User :=
  { sampleUser with
    lastName := some "Byron"
    photoUrl := some "a"
    hash := "e0c8ad30576e743e51c43c3958df5effa27d461b46dbffc798f9c69b72db1bf5" }

def mergedUser : User := { photoUser with lastName := some "Byron\nphoto_url=a", photoUrl := none }

/-- These are the digests of the string of both users under one token. -/
def sampleDigests : Digests where
  sha256 _ := [179, 131, 162, 30, 34, 254, 227, 79, 246, 32, 46, 254, 145, 120, 72, 131, 38, 4, 128, 172,
      74, 141, 149, 245, 12, 111, 124, 206, 24, 248, 10, 97]
  hmacSha256 _ message :=
    if message = photoUser.dataCheckString.toUTF8.data.toList then
      [224, 200, 173, 48, 87, 110, 116, 62, 81, 196, 60, 57, 88, 223, 94, 255, 162, 125, 70, 27, 70,
        219, 255, 199, 152, 249, 198, 155, 114, 219, 27, 245]
    else []

/-- A user and the same one with another hash agree; the hash of the user with a photo is good for
another user, but for the same id and username only. -/
theorem User.dataCheckString_reads_sample : sampleUser.Agrees { sampleUser with hash := "" } ∧
    photoUser ≠ mergedUser ∧ mergedUser.id = photoUser.id ∧
    ∀ username ∈ mergedUser.username, photoUser.username = some username := by
  have safe : photoUser.Sealed := by
    unfold User.Sealed
    decide
  have unambiguous : sampleUser.Unambiguous := ⟨by decide, by decide, by decide⟩
  have too : ({ sampleUser with hash := "" } : User).Unambiguous :=
    ⟨by decide, by decide, by decide⟩
  have same : photoUser.dataCheckString = mergedUser.dataCheckString := by decide
  have unique : sampleDigests.Unique "42:telegram" photoUser.dataCheckString := by
    intro message same
    by_contra different
    have other : sampleDigests.hmacSha256 (sampleDigests.sha256 "42:telegram".toUTF8.data.toList)
        message = [] := if_neg different
    have digest : sampleDigests.hmacSha256 (sampleDigests.sha256 "42:telegram".toUTF8.data.toList)
        photoUser.dataCheckString.toUTF8.data.toList ≠ [] := by decide
    exact digest (same.symm.trans other)
  have accepted : photoUser.check sampleDigests "42:telegram" = .ok () := by rfl
  have merged : mergedUser.check sampleDigests "42:telegram" = .ok () := by rfl
  exact ⟨dataCheckString_reads.1 _ _ unambiguous too rfl, by decide,
    (dataCheckString_reads.2.1 _ _ safe same).1,
    (dataCheckString_reads.2.2 _ _ _ _ safe unique accepted rfl merged).2⟩

/-- The first name of one user holds the lines of another id. -/
def issuedUser : User :=
  { sampleUser with firstName := "A\nid=5\nlast_name=B" }

def forgedUser : User :=
  { sampleUser with id := 5, firstName := "A", lastName := some "B\nid=7" }

theorem User.dataCheckString_ambiguous :
    ¬ (∀ user other : User, user.dataCheckString = other.dataCheckString → user.Agrees other) ∧
      issuedUser.id ≠ forgedUser.id ∧ issuedUser.hash = forgedUser.hash ∧
      ∀ digests token, issuedUser.check digests token = forgedUser.check digests token := by
  have same : issuedUser.dataCheckString = forgedUser.dataCheckString := by decide
  have different : issuedUser.id ≠ forgedUser.id := by decide
  refine ⟨fun always => different (always _ _ same).id, different, rfl, fun digests token => ?_⟩
  simp only [check, same]
  rfl

end Web3Id.SomeIssuer
