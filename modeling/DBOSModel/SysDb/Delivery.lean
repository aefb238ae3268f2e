import DBOSModel.SysDb.ForkDescendants
import DBOSModel.SysDb.RetryIdempotence

/-!
# Delivery of a batch of messages

A batch that `send_bulk` accepts is one insert that skips the rows whose message ID is taken, by the
table or by an earlier row of the batch. A generated ID is never taken. The ID of a message with an
idempotency key is the key, two colons and the recipient, so that a row is lost exactly if two
messages with keys build the same ID for some of their recipients, or if the table has that ID. The
duplicate check does not exclude the first: it passes over empty keys, and different keys build the
same ID for recipients that start with the rest of the longer one.
-/

namespace DBOSModel.SysDb

open Relational

/-! ## Batches of a list -/

section Batches

variable {α β : Type}

/-- The positions of a flattened list, batch by batch. -/
theorem exists_batches (entries : List α) (f : α → List β) {γ : Type} (g : ℕ → β → γ) :
    ∃ batches : List (List γ), (entries.flatMap f).mapIdx g = batches.flatten ∧
      List.Forall₂ (fun entry batch ↦ ∃ offset, batch = (f entry).mapIdx fun i ↦ g (i + offset))
        entries batches := by
  induction entries generalizing g with
  | nil => exact ⟨[], rfl, .nil⟩
  | cons entry rest ih =>
    obtain ⟨batches, hflatten, hbatches⟩ := ih fun i ↦ g (i + (f entry).length)
    refine ⟨(f entry).mapIdx g :: batches, ?_, .cons ⟨0, rfl⟩ ?_⟩
    · rw [List.flatMap_cons, List.mapIdx_append, List.flatten_cons, hflatten]
    · refine hbatches.imp ?_
      rintro other batch ⟨offset, rfl⟩
      refine ⟨offset + (f entry).length, ?_⟩
      simp only [Nat.add_assoc]

/-- Two lists that are related to a third one, entry by entry. -/
theorem forall₂_trans {γ : Type} {R : α → β → Prop} {S : β → γ → Prop} {T : α → γ → Prop}
    (hcomp : ∀ a b c, R a b → S b c → T a c) {left : List α} {middle : List β} {right : List γ}
    (hleft : List.Forall₂ R left middle) (hright : List.Forall₂ S middle right) :
    List.Forall₂ T left right := by
  induction hleft generalizing right with
  | nil =>
    cases hright
    exact .nil
  | cons hfirst _ ih =>
    cases hright with
    | cons hsecond hrest => exact .cons (hcomp _ _ _ hfirst hsecond) (ih hrest)

/-- A relation between the entries of an indexed list that does not depend on the positions. -/
theorem pairwise_mapIdx {R : β → β → Prop} {S : α → α → Prop} {g : ℕ → α → β} {entries : List α}
    (h : ∀ i j a b, i ≠ j → (R (g i a) (g j b) ↔ S a b)) :
    (entries.mapIdx g).Pairwise R ↔ entries.Pairwise S := by
  simp only [List.pairwise_iff_getElem, List.length_mapIdx, List.getElem_mapIdx]
  constructor
  · intro hpairwise i j hi hj hlt
    exact (h i j _ _ (by omega)).mp (hpairwise i j hi hj hlt)
  · intro hpairwise i j hi hj hlt
    exact (h i j _ _ (by omega)).mpr (hpairwise i j hi hj hlt)

end Batches

/-! ## Delivery -/

section Statement

variable {V : Type}

/-- The recipients of a message: its destination and, with `send_to_forks`, the workflows forked
from it in one or more steps. -/
def IsRecipient (db : SystemDatabase) (sendToForks : Bool) (destinationId dest : String) : Prop :=
  dest = destinationId ∨
    sendToForks ∧ dest ≠ destinationId ∧ Relation.TransGen (ForkOf db) destinationId dest

/-- The rows of one message: one for each recipient, with its topic and body, not yet consumed. -/
structure DeliveredAs (serializers : Serializers V) (call : SendBulkCall V) (now : ℤ)
    (db : SystemDatabase) (m : SendMessage V) (batch : List NotificationRow) : Prop where
  distinct : (batch.map NotificationRow.destinationUuid).Nodup
  recipients : ∀ dest, dest ∈ batch.map NotificationRow.destinationUuid ↔
    IsRecipient db call.sendToForks m.destinationId dest
  content : ∀ row ∈ batch, row.topic = m.topic.getD nullTopic ∧
    (∃ name, serializers.serializeValue m.message call.serializationType = .ok (row.message, name) ∧
      row.serialization = some name) ∧
    row.createdAtEpochMs = now ∧ row.consumed = false

/-- The call has added the rows of its messages to the table, and nothing else has changed there. -/
def DeliversExactly (serializers : Serializers V) (call : SendBulkCall V) (now : ℤ)
    (db db' : SystemDatabase) : Prop :=
  ∃ batches, List.Forall₂ (DeliveredAs serializers call now db) call.messages batches ∧
    db'.notifications.rows.Perm (db.notifications.rows ++ batches.flatten)

/-- The ID of a message with a key at a recipient. -/
def keyedUuid (key dest : String) : String := key ++ "::" ++ dest

/-- The idempotency key and the destination of a message. -/
def SendMessage.address (m : SendMessage V) : Option String × String :=
  (m.idempotencyKey, m.destinationId)

/-- Two messages build different IDs from their keys, whoever the recipients are. -/
def BuildsOtherIds (db : SystemDatabase) (sendToForks : Bool)
    (address address' : Option String × String) : Prop :=
  ∀ key ∈ address.1, ∀ key' ∈ address'.1, ∀ dest dest',
    IsRecipient db sendToForks address.2 dest → IsRecipient db sendToForks address'.2 dest' →
      keyedUuid key dest ≠ keyedUuid key' dest'

/-- The IDs built from the key of a message are not in the table. -/
def BuildsNewIds (db : SystemDatabase) (sendToForks : Bool) (address : Option String × String) :
    Prop :=
  ∀ key ∈ address.1, ∀ dest, IsRecipient db sendToForks address.2 dest →
    ∀ row ∈ db.notifications.rows, row.messageUuid ≠ keyedUuid key dest

/-- What `generate_uuid` promises: hexadecimal digits and dashes, other ones each time, and none of
those in the table. -/
structure GeneratesFresh (uuids : ℕ → String) (db : SystemDatabase) : Prop where
  injective : Function.Injective uuids
  noColon : ∀ i, ':' ∉ (uuids i).toList
  notStored : ∀ i, ∀ row ∈ db.notifications.rows, row.messageUuid ≠ uuids i

/-- The call is not the replay of a step that has its checkpoint. -/
def NotReplayed (call : SendBulkCall V) (db : SystemDatabase) : Prop :=
  ∀ workflowId ∈ call.workflowId, ∀ functionId ∈ call.functionId,
    db.operationOutputs.lookup (workflowId, functionId) = none

end Statement

/-! ## The insert -/

section Insert

variable {rows : List NotificationRow} {db db' : SystemDatabase}

/-- The message IDs of an insert are distinct and not in the table. -/
def NewIds (rows : List NotificationRow) (db : SystemDatabase) : Prop :=
  (rows.map NotificationRow.messageUuid).Nodup ∧
    ∀ row ∈ rows, ∀ stored ∈ db.notifications.rows, stored.messageUuid ≠ row.messageUuid

/-- With new IDs, an accepted insert adds all its rows. -/
theorem rows_insertNotifications (hnew : NewIds rows db)
    (h : insertNotifications rows db = some db') :
    db'.notifications.rows = db.notifications.rows ++ rows := by
  induction rows generalizing db with
  | nil =>
    cases h
    rw [List.append_nil]
  | cons row rest ih =>
    obtain ⟨hnodup, hunstored⟩ := hnew
    rw [List.map_cons, List.nodup_cons] at hnodup
    rw [insertNotifications] at h
    split at h
    · rename_i htaken
      obtain ⟨stored, hstored, hkey⟩ := Table.insertNew_eq_none.mp htaken
      exact absurd hkey (hunstored row List.mem_cons_self stored hstored)
    · rename_i notifications hinsert
      have hrows := (Table.insertNew_eq_some.mp hinsert).2
      split at h
      · rw [ih ⟨hnodup.2, ?_⟩ h]
        · rw [hrows, List.append_assoc, List.singleton_append]
        · intro other hother stored hstored
          rw [hrows, List.mem_append, List.mem_singleton] at hstored
          rcases hstored with hold | rfl
          · exact hunstored other (List.mem_cons_of_mem _ hother) stored hold
          · intro hkey
            exact hnodup.1 (hkey ▸ List.mem_map_of_mem hother)
      · cases h

theorem length_insertNotifications_le (h : insertNotifications rows db = some db') :
    db'.notifications.rows.length ≤ db.notifications.rows.length + rows.length := by
  induction rows generalizing db with
  | nil =>
    cases h
    exact Nat.le_refl _
  | cons row rest ih =>
    rw [insertNotifications] at h
    rw [List.length_cons]
    split at h
    · have hrest := ih h
      omega
    · rename_i notifications hinsert
      have hrows := (Table.insertNew_eq_some.mp hinsert).2
      split at h
      · have hrest := ih h
        rw [hrows, List.length_append, List.length_singleton] at hrest
        omega
      · cases h

/-- An insert that adds as many rows as it has has new IDs. -/
theorem newIds_of_length (h : insertNotifications rows db = some db')
    (hlength : db'.notifications.rows.length = db.notifications.rows.length + rows.length) :
    NewIds rows db := by
  induction rows generalizing db with
  | nil => exact ⟨List.nodup_nil, fun row hrow ↦ absurd hrow List.not_mem_nil⟩
  | cons row rest ih =>
    rw [insertNotifications] at h
    rw [List.length_cons] at hlength
    split at h
    · have hrest := length_insertNotifications_le h
      omega
    · rename_i notifications hinsert
      have hrows := (Table.insertNew_eq_some.mp hinsert).2
      split at h
      · obtain ⟨hnodup, hunstored⟩ := ih h (by
          rw [hrows, List.length_append, List.length_singleton]
          omega)
        constructor
        · rw [List.map_cons, List.nodup_cons]
          refine ⟨fun hmem ↦ ?_, hnodup⟩
          obtain ⟨other, hother, hkey⟩ := List.mem_map.mp hmem
          exact hunstored other hother row (by simp [hrows]) hkey.symm
        · intro other hother stored hstored
          rcases List.mem_cons.mp hother with rfl | hrest
          · exact (Table.insertNew_eq_some.mp hinsert).1 stored hstored
          · exact hunstored other hrest stored (by simp [hrows, hstored])
      · cases h

end Insert

/-! ## The rows of a batch -/

section Rows

variable {db : SystemDatabase} {sendToForks : Bool} {prepared : List PreparedMessage}

/-- The forks that a batch looks up. -/
def batchDescendants (sendToForks : Bool) (prepared : List PreparedMessage) (db : SystemDatabase) :
    List (String × List String) :=
  if sendToForks then findForkDescendantsTxn (prepared.map PreparedMessage.destinationId) db else []

/-- The pairs of a message and a recipient, in the order of the insert. -/
def addressed (sendToForks : Bool) (prepared : List PreparedMessage) (db : SystemDatabase)
    (m : PreparedMessage) : List (PreparedMessage × String) :=
  (recipients sendToForks (batchDescendants sendToForks prepared db) m.destinationId).map
    fun dest ↦ (m, dest)

theorem notificationRows_eq (now : ℤ) (uuids : ℕ → String) :
    notificationRows now uuids sendToForks prepared db =
      (prepared.flatMap (addressed sendToForks prepared db)).mapIdx
        fun i pair ↦ notificationRow now (uuids i) pair.1 pair.2 := rfl

/-- The loop over the destinations meets each recipient once. -/
theorem recipients_spec (db : SystemDatabase) (sendToForks : Bool) {m : PreparedMessage}
    (hm : m ∈ prepared) :
    (recipients sendToForks (batchDescendants sendToForks prepared db) m.destinationId).Nodup ∧
      ∀ dest, dest ∈ recipients sendToForks (batchDescendants sendToForks prepared db)
        m.destinationId ↔ IsRecipient db sendToForks m.destinationId dest := by
  cases sendToForks with
  | false => simp [recipients, IsRecipient]
  | true =>
    obtain ⟨descendants, hlookup, hnodup, hmem⟩ := findForkDescendantsTxn_spec db
      (List.mem_map_of_mem (f := PreparedMessage.destinationId) hm)
    have hsorted : (sortedStrings descendants).Perm descendants :=
      List.perm_insertionSort _ _
    have hrecipients : recipients true (batchDescendants true prepared db) m.destinationId =
        m.destinationId :: sortedStrings descendants := by
      simp [recipients, batchDescendants, hlookup]
    rw [hrecipients]
    constructor
    · rw [List.nodup_cons, hsorted.mem_iff, hmem]
      exact ⟨fun h ↦ h.1 rfl, hsorted.nodup_iff.mpr hnodup⟩
    · intro dest
      rw [List.mem_cons, hsorted.mem_iff, hmem, IsRecipient]
      simp

theorem mem_addressed {m : PreparedMessage} {pair : PreparedMessage × String} (hm : m ∈ prepared) :
    pair ∈ addressed sendToForks prepared db m ↔
      pair.1 = m ∧ IsRecipient db sendToForks m.destinationId pair.2 := by
  obtain ⟨owner, dest⟩ := pair
  simp only [addressed, List.mem_map, (recipients_spec db sendToForks hm).2, Prod.mk.injEq]
  constructor
  · rintro ⟨other, hrecipient, rfl, rfl⟩
    exact ⟨rfl, hrecipient⟩
  · rintro ⟨rfl, hrecipient⟩
    exact ⟨dest, hrecipient, rfl, rfl⟩

/-- A key builds different IDs for different recipients. -/
theorem keyedUuid_inj {key dest dest' : String} :
    keyedUuid key dest = keyedUuid key dest' ↔ dest = dest' := by
  rw [keyedUuid, keyedUuid, String.append_right_inj]

/-- A generated ID is not built from a key. -/
theorem ne_keyedUuid {uuids : ℕ → String} (hfresh : GeneratesFresh uuids db) (i : ℕ)
    (key dest : String) : uuids i ≠ keyedUuid key dest := by
  intro heq
  apply hfresh.noColon i
  rw [heq, keyedUuid, String.toList_append, String.toList_append]
  simp

/-- Two pairs whose message IDs differ in every attempt. -/
def Apart (pair pair' : PreparedMessage × String) : Prop :=
  ∀ key ∈ pair.1.idempotencyKey, ∀ key' ∈ pair'.1.idempotencyKey,
    keyedUuid key pair.2 ≠ keyedUuid key' pair'.2

theorem messageUuid_ne_iff {uuids : ℕ → String} (hfresh : GeneratesFresh uuids db) (now : ℤ)
    {i j : ℕ} (hij : i ≠ j) (pair pair' : PreparedMessage × String) :
    (notificationRow now (uuids i) pair.1 pair.2).messageUuid ≠
      (notificationRow now (uuids j) pair'.1 pair'.2).messageUuid ↔ Apart pair pair' := by
  unfold Apart
  cases hkey : pair.1.idempotencyKey with
  | none =>
    cases hkey' : pair'.1.idempotencyKey with
    | none =>
      have hne : uuids i ≠ uuids j := fun heq ↦ hij (hfresh.injective heq)
      simp [notificationRow, hkey, hkey', hne]
    | some key' =>
      have hne := ne_keyedUuid hfresh i key' pair'.2
      rw [keyedUuid] at hne
      simp [notificationRow, hkey, hkey', hne]
  | some key =>
    cases hkey' : pair'.1.idempotencyKey with
    | none =>
      have hne := ne_keyedUuid hfresh j key pair.2
      rw [keyedUuid] at hne
      simp [notificationRow, hkey, hkey', hne.symm]
    | some key' => simp [notificationRow, hkey, hkey', keyedUuid]

/-- The pairs of one message are apart. -/
theorem pairwise_addressed {m : PreparedMessage} (hm : m ∈ prepared) :
    (addressed sendToForks prepared db m).Pairwise Apart := by
  rw [addressed, List.pairwise_map]
  refine (recipients_spec db sendToForks hm).1.imp ?_
  intro dest dest' hne key hkey key' hkey'
  have hsame : key = key' := Option.some.inj (hkey.symm.trans hkey')
  rw [hsame, Ne, keyedUuid_inj]
  exact hne

def PreparedMessage.address (m : PreparedMessage) : Option String × String :=
  (m.idempotencyKey, m.destinationId)

theorem pairwise_apart_iff :
    (prepared.flatMap (addressed sendToForks prepared db)).Pairwise Apart ↔
      (prepared.map PreparedMessage.address).Pairwise (BuildsOtherIds db sendToForks) := by
  rw [List.pairwise_flatMap, and_iff_right fun m hm ↦ pairwise_addressed hm, List.pairwise_map]
  apply List.Pairwise.iff_of_mem
  intro m m' hm hm'
  constructor
  · intro h key hkey key' hkey' dest dest' hdest hdest'
    exact h (m, dest) ((mem_addressed hm).mpr ⟨rfl, hdest⟩) (m', dest')
      ((mem_addressed hm').mpr ⟨rfl, hdest'⟩) key hkey key' hkey'
  · rintro h ⟨owner, dest⟩ hpair ⟨owner', dest'⟩ hpair' key hkey key' hkey'
    obtain ⟨rfl, hdest⟩ := (mem_addressed hm).mp hpair
    obtain ⟨rfl, hdest'⟩ := (mem_addressed hm').mp hpair'
    exact h key hkey key' hkey' dest dest' hdest hdest'

/-- The rows of a batch have new IDs exactly if the IDs that its keys build are new. -/
theorem newIds_iff (sendToForks : Bool) (prepared : List PreparedMessage) {uuids : ℕ → String}
    (hfresh : GeneratesFresh uuids db) (now : ℤ) :
    NewIds (notificationRows now uuids sendToForks prepared db) db ↔
      (prepared.map PreparedMessage.address).Pairwise (BuildsOtherIds db sendToForks) ∧
      ∀ address ∈ prepared.map PreparedMessage.address, BuildsNewIds db sendToForks address := by
  rw [NewIds, notificationRows_eq, ← pairwise_apart_iff, List.Nodup, List.pairwise_map,
    List.forall_mem_map]
  apply and_congr
  · apply pairwise_mapIdx (S := Apart)
    intro i j pair pair' hij
    exact messageUuid_ne_iff hfresh now hij pair pair'
  · constructor
    · intro hnew m hm key hkey dest hdest row hrow
      have hpair : (m, dest) ∈ addressed sendToForks prepared db m :=
        (mem_addressed hm).mpr ⟨rfl, hdest⟩
      obtain ⟨i, hi, hget⟩ := List.getElem_of_mem (List.mem_flatMap.mpr ⟨m, hm, hpair⟩)
      have hstored := hnew _ (List.mem_mapIdx.mpr ⟨i, hi, rfl⟩) row hrow
      have howner : m.idempotencyKey = some key := hkey
      simpa only [hget, notificationRow, howner, keyedUuid] using hstored
    · intro hkeyed row hrow stored hstored
      obtain ⟨i, hi, rfl⟩ := List.mem_mapIdx.mp hrow
      obtain ⟨m, hm, hpair⟩ := List.mem_flatMap.mp (List.getElem_mem hi)
      obtain ⟨howner, hdest⟩ := (mem_addressed hm).mp hpair
      cases hkey : m.idempotencyKey with
      | none =>
        simp only [notificationRow, howner, hkey]
        exact hfresh.notStored i stored hstored
      | some key =>
        simp only [notificationRow, howner, hkey]
        exact hkeyed m hm key hkey _ hdest stored hstored

/-- The rows of one prepared message. -/
theorem destinations_mapIdx (db : SystemDatabase) (sendToForks : Bool)
    (prepared : List PreparedMessage) (m : PreparedMessage) (now : ℤ) (uuids : ℕ → String) :
    ((addressed sendToForks prepared db m).mapIdx fun i pair ↦
      notificationRow now (uuids i) pair.1 pair.2).map NotificationRow.destinationUuid =
        recipients sendToForks (batchDescendants sendToForks prepared db) m.destinationId := by
  apply List.ext_getElem
  · simp only [List.length_map, List.length_mapIdx, addressed]
  · intro i hi hi'
    simp only [List.getElem_map, List.getElem_mapIdx, addressed, notificationRow]

end Rows

/-! ## The call -/

section Call

variable {V : Type} {serializers : Serializers V} {executorId : Option String}
  {call : SendBulkCall V} {now startTime completedAt : ℤ} {uuids : ℕ → String}
  {db db' : SystemDatabase} {prepared : List PreparedMessage}

/-- An accepted call that is not a replay has inserted its rows. -/
theorem insertNotifications_of_sendBulkTxn (hreplay : NotReplayed call db)
    (h : sendBulkTxn serializers executorId call now startTime completedAt uuids db = .ok db') :
    ∃ prepared, call.messages.mapM (prepareMessage serializers call.serializationType) =
        .ok prepared ∧
      ∃ inserted, insertNotifications
        (notificationRows now uuids call.sendToForks prepared db) db = some inserted ∧
        db'.notifications = inserted.notifications := by
  obtain ⟨-, prepared, hprepared,
    ⟨-, hdeliver⟩ | ⟨workflowId, functionId, hworkflow, hfunction, hstep⟩⟩ := sendBulkTxn_eq_ok h
  · exact ⟨prepared, hprepared, db', deliver_eq_ok hdeliver, rfl⟩
  · rcases recordedStep_eq_ok hstep with ⟨recorded, hcheck, -⟩ | ⟨-, output, middle, hwork, hrecord⟩
    · obtain ⟨stored, hstored, -⟩ := exists_stored_of_check hcheck
      rw [hreplay workflowId hworkflow functionId hfunction] at hstored
      cases hstored
    · obtain ⟨delivered, hdeliver, hpure⟩ := bind_eq_ok.mp hwork
      cases hpure
      refine ⟨prepared, hprepared, middle, deliver_eq_ok hdeliver, ?_⟩
      rw [recordOperationResultTxn_frame hrecord]

/-- The rows that a batch inserts are those of its messages. -/
theorem exists_deliveredAs (now : ℤ) (uuids : ℕ → String) (db : SystemDatabase)
    (h : call.messages.mapM (prepareMessage serializers call.serializationType) = .ok prepared) :
    ∃ batches, List.Forall₂ (DeliveredAs serializers call now db) call.messages batches ∧
      notificationRows now uuids call.sendToForks prepared db = batches.flatten := by
  rw [notificationRows_eq]
  obtain ⟨batches, hflatten, hbatches⟩ := exists_batches prepared
    (addressed call.sendToForks prepared db)
    (fun i pair ↦ notificationRow now (uuids i) pair.1 pair.2)
  refine ⟨batches, ?_, hflatten⟩
  have hmember := (List.forall₂_and_left _ _).mpr ⟨fun m hm ↦ hm, hbatches⟩
  refine forall₂_trans ?_ (forall₂_of_mapM h) hmember
  rintro m p batch hprepare ⟨hp, offset, rfl⟩
  obtain ⟨⟨serval, serialization⟩, hserialize, hpure⟩ := bind_eq_ok.mp hprepare
  cases hpure
  obtain ⟨hnodup, hmem⟩ := recipients_spec db call.sendToForks hp
  have hdestinations := destinations_mapIdx db call.sendToForks prepared
    ⟨m.destinationId, m.topic.getD nullTopic, m.idempotencyKey, serval, serialization⟩ now
    fun i ↦ uuids (i + offset)
  refine ⟨?_, ?_, ?_⟩
  · rw [hdestinations]
    exact hnodup
  · intro dest
    rw [hdestinations]
    exact hmem dest
  · intro row hrow
    obtain ⟨i, hi, rfl⟩ := List.mem_mapIdx.mp hrow
    obtain ⟨howner, -⟩ := (mem_addressed hp).mp (List.getElem_mem hi)
    simp only [notificationRow, howner]
    exact ⟨trivial, ⟨serialization, hserialize, rfl⟩, trivial, trivial⟩

theorem address_prepared {messages : List (SendMessage V)} {format : WorkflowSerializationFormat}
    (h : messages.mapM (prepareMessage serializers format) = .ok prepared) :
    prepared.map PreparedMessage.address = messages.map SendMessage.address := by
  have hall := forall₂_of_mapM h
  clear h
  induction hall with
  | nil => rfl
  | cons hfirst _ ih =>
    obtain ⟨⟨serval, serialization⟩, -, hpure⟩ := bind_eq_ok.mp hfirst
    cases hpure
    rw [List.map_cons, List.map_cons, ih]
    rfl

/-- All ways to deliver a batch add the same number of rows. -/
theorem length_flatten_of_deliveredAs {batches batches' : List (List NotificationRow)}
    {messages : List (SendMessage V)}
    (h : List.Forall₂ (DeliveredAs serializers call now db) messages batches)
    (h' : List.Forall₂ (DeliveredAs serializers call now db) messages batches') :
    batches.flatten.length = batches'.flatten.length := by
  induction h generalizing batches' with
  | nil =>
    cases h'
    rfl
  | cons hfirst _ ih =>
    cases h' with
    | cons hfirst' hrest' =>
      have hperm := (List.perm_ext_iff_of_nodup hfirst.distinct hfirst'.distinct).mpr fun dest ↦
        (hfirst.recipients dest).trans (hfirst'.recipients dest).symm
      have hlength := hperm.length_eq
      rw [List.length_map, List.length_map] at hlength
      rw [List.flatten_cons, List.flatten_cons, List.length_append, List.length_append, hlength,
        ih hrest']

/-- An accepted call that is not a replay delivers its batch exactly if no two of its messages build
the same ID from their keys, and none builds an ID that the table has. -/
theorem deliversExactly_iff (hfresh : GeneratesFresh uuids db) (hreplay : NotReplayed call db)
    (haccepted : sendBulkTxn serializers executorId call now startTime completedAt uuids db =
      .ok db') :
    DeliversExactly serializers call now db db' ↔
      (call.messages.map SendMessage.address).Pairwise (BuildsOtherIds db call.sendToForks) ∧
      ∀ address ∈ call.messages.map SendMessage.address,
        BuildsNewIds db call.sendToForks address := by
  obtain ⟨prepared, hprepared, inserted, hinsert, hnotifications⟩ :=
    insertNotifications_of_sendBulkTxn hreplay haccepted
  obtain ⟨batches, hbatches, hrows⟩ := exists_deliveredAs now uuids db hprepared
  have hiff := newIds_iff call.sendToForks prepared hfresh now
  rw [address_prepared hprepared] at hiff
  rw [← hiff, DeliversExactly, hnotifications]
  constructor
  · rintro ⟨batches', hbatches', hperm⟩
    apply newIds_of_length hinsert
    rw [hperm.length_eq, List.length_append, hrows, length_flatten_of_deliveredAs hbatches hbatches']
  · intro hnew
    refine ⟨batches, hbatches, ?_⟩
    rw [rows_insertNotifications hnew hinsert, hrows]

end Call

/-! ## Two batches -/

/-- A generator of IDs. -/
def repeatedDigit (i : ℕ) : String := String.ofList (List.replicate i '0')

theorem generatesFresh_repeatedDigit {db : SystemDatabase} (h : db.notifications.rows = []) :
    GeneratesFresh repeatedDigit db := by
  refine ⟨?_, ?_, ?_⟩
  · intro i j heq
    have hlength := congrArg (fun uuid ↦ uuid.toList.length) heq
    simpa [repeatedDigit] using hlength
  · intro i
    simp [repeatedDigit]
  · intro i row hrow
    rw [h] at hrow
    cases hrow

/-- Two messages to the running workflow, from outside a workflow. -/
def sendTwice (first second : String) : SendBulkCall (Option Bool) where
  messages :=
    [{ destinationId := "wf", message := some true, idempotencyKey := some first },
      { destinationId := "wf", message := some false, idempotencyKey := some second }]
  functionName := "DBOS.send_bulk"

theorem notReplayed_sendTwice (first second : String) (db : SystemDatabase) :
    NotReplayed (sendTwice first second) db := by
  intro workflowId hworkflowId
  cases hworkflowId

/-- The call, while the table has no messages. -/
def sentTwice (first second : String) : Except DBOSError SystemDatabase :=
  sendBulkTxn booleanSerializers (some "local") (sendTwice first second) 10 10 10 repeatedDigit
    runningWorkflow

theorem deliversExactly_otherKeys :
    ∃ db', sentTwice "a" "b" = .ok db' ∧
      DeliversExactly booleanSerializers (sendTwice "a" "b") 10 runningWorkflow db' := by
  obtain ⟨db', haccepted⟩ : ∃ db', sentTwice "a" "b" = .ok db' := ⟨_, rfl⟩
  refine ⟨db', haccepted, ?_⟩
  apply (deliversExactly_iff (generatesFresh_repeatedDigit rfl) (notReplayed_sendTwice "a" "b" _)
    haccepted).mpr
  have hrecipient (dest : String) :
      IsRecipient runningWorkflow (sendTwice "a" "b").sendToForks "wf" dest ↔ dest = "wf" := by
    simp [IsRecipient, sendTwice]
  constructor
  · simp only [sendTwice, List.map_cons, List.map_nil, List.pairwise_cons, List.mem_singleton,
      List.not_mem_nil, false_imp_iff, forall_const, List.Pairwise.nil, and_true, forall_eq]
    intro key hkey key' hkey' dest dest' hdest hdest'
    cases hkey
    cases hkey'
    rw [(hrecipient dest).mp hdest, (hrecipient dest').mp hdest']
    decide
  · intro address haddress key hkey dest hdest row hrow
    cases hrow

/-- Two messages with an empty key pass the duplicate check, and the second one is lost. -/
theorem not_deliversExactly_emptyKeys :
    runningWorkflow.notifications.rows = [] ∧ GeneratesFresh repeatedDigit runningWorkflow ∧
      NotReplayed (sendTwice "" "") runningWorkflow ∧
      ∃ db', sentTwice "" "" = .ok db' ∧
        ¬DeliversExactly booleanSerializers (sendTwice "" "") 10 runningWorkflow db' := by
  obtain ⟨db', haccepted⟩ : ∃ db', sentTwice "" "" = .ok db' := ⟨_, rfl⟩
  refine ⟨rfl, generatesFresh_repeatedDigit rfl, notReplayed_sendTwice "" "" _, db', haccepted, ?_⟩
  rintro ⟨batches, hbatches, hperm⟩
  have hrows : (sentTwice "" "").toOption.map (fun db ↦ db.notifications.rows.length) = some 1 := by
    decide
  rw [haccepted] at hrows
  have hone : db'.notifications.rows.length = 1 := Option.some.inj hrows
  have hempty : runningWorkflow.notifications.rows = [] := rfl
  cases hbatches with
  | @cons _ batch _ _ hfirst hrest =>
    cases hrest with
    | @cons _ batch' _ _ hsecond hrest =>
      cases hrest
      have hdest := List.length_pos_of_mem ((hfirst.recipients "wf").mpr (Or.inl rfl))
      have hdest' := List.length_pos_of_mem ((hsecond.recipients "wf").mpr (Or.inl rfl))
      have hlength := hperm.length_eq
      rw [hone, hempty] at hlength
      simp only [List.nil_append, List.flatten_cons, List.flatten_nil, List.append_nil,
        List.length_append, List.length_map] at hlength hdest hdest'
      omega

end DBOSModel.SysDb
