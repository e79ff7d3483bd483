import OverSync.Library.Keyset
import OverSync.Verification.Coordinator.Calls
import OverSync.Verification.Coordinator.HistoryCursor
import OverSync.Verification.Coordinator.Statements
import Mathlib.Data.Prod.Lex

/-! # Pages of the order history

A client that follows `nextCursor` is a reader of the keys of an address. Between its requests the
database only gains keys. -/

namespace OverSync.Coordinator

open Library Library.Keyset

/-! ## Keys -/

/-- The order of a listing: the time first, then the id. -/
abbrev HistoryKey := ℕ ×ₗ String

def StoredOrder.historyKey (row : StoredOrder) : HistoryKey := toLex (row.createdAt, row.publicId)

def OrderView.historyKey (view : OrderView) : HistoryKey := toLex (view.createdAt, view.id)

def Keyset.key (keyset : Keyset) : HistoryKey := toLex (keyset.createdAt, keyset.publicId)

def historyKeys (orders : List StoredOrder) (address : String) : List HistoryKey :=
  (orders.filter fun row => row.isOf address).map StoredOrder.historyKey

variable {C : Conversions} {network : Network} {query : HistoryQuery} {address : String}
  {limit : ℕ} {db : Database} {orders : List StoredOrder}

theorem mem_historyKeys {key : HistoryKey} :
    key ∈ historyKeys orders address ↔
      ∃ row ∈ orders, row.isOf address ∧ row.historyKey = key := by
  simp [historyKeys, and_assoc]

theorem olderThan_iff (row : StoredOrder) (before : Keyset) :
    row.olderThan before = decide (row.historyKey < before.key) := by
  simp [StoredOrder.olderThan, StoredOrder.historyKey, Keyset.key, Prod.Lex.toLex_lt_toLex]

theorem comesBefore_iff (a b : StoredOrder) : a.comesBefore b ↔ a.historyKey ≥ b.historyKey := by
  simp [StoredOrder.comesBefore, StoredOrder.historyKey, Prod.Lex.toLex_le_toLex]

/-- The query is the listing of the keys. -/
theorem findByAddressPage_keys (db : Database) (address : String) (limit : ℕ)
    (before : Option Keyset) :
    (OrdersRepository.findByAddressPage db address limit before).map StoredOrder.historyKey =
      (listing (historyKeys db.orders address) (before.map Keyset.key)).take limit := by
  have hsort := List.map_insertionSort (r := StoredOrder.comesBefore) (s := (· ≥ ·))
    StoredOrder.historyKey
    (db.orders.filter fun row => row.isOf address && before.all row.olderThan)
    fun a _ b _ => comesBefore_iff a b
  have hfilter : (db.orders.filter fun row => row.isOf address && before.all row.olderThan).map
      StoredOrder.historyKey =
        (historyKeys db.orders address).filter
          fun key => (before.map Keyset.key).all fun k => key < k := by
    rw [historyKeys, List.filter_map, List.filter_filter]
    congr 1
    apply List.filter_congr
    intro row _
    cases before with
    | none => simp
    | some before => simp [olderThan_iff, Bool.and_comm]
  rw [OrdersRepository.findByAddressPage, List.map_take, hsort, hfilter, listing]

theorem mem_findByAddressPage {before : Option Keyset} {row : StoredOrder}
    (h : row ∈ OrdersRepository.findByAddressPage db address limit before) : row ∈ db.orders := by
  have hsorted := (List.mem_insertionSort _).mp (List.mem_of_mem_take h)
  exact (List.mem_filter.mp hsorted).1

theorem historyKeys_nodup (address : String) (h : UniqueIds orders) : (historyKeys orders address).Nodup := by
  have hids : ((historyKeys orders address).map fun key => (ofLex key).2).Nodup := by
    rw [historyKeys, List.map_map]
    exact h.sublist ((List.filter_sublist).map _)
  exact hids.of_map

/-- Rows of one id have one key. -/
theorem historyKeys_id {key key' : HistoryKey} (h : UniqueIds orders)
    (hkey : key ∈ historyKeys orders address) (hkey' : key' ∈ historyKeys orders address)
    (hid : (ofLex key).2 = (ofLex key').2) : key = key' := by
  obtain ⟨row, hrow, -, rfl⟩ := mem_historyKeys.mp hkey
  obtain ⟨row', hrow', -, rfl⟩ := mem_historyKeys.mp hkey'
  rw [List.inj_on_of_nodup_map h hrow hrow' hid]

/-! ## Statements -/

@[simp] theorem Edit.row_createdAt (edit : Edit) (now : ℕ) (stored : StoredOrder) :
    (edit.row now stored).createdAt = stored.createdAt := by
  unfold Edit.row
  split <;> rfl

@[simp] theorem Edit.row_isOf (edit : Edit) (now : ℕ) (stored : StoredOrder) (address : String) :
    (edit.row now stored).isOf address = stored.isOf address := by
  unfold Edit.row
  split
  · cases edit <;> rfl
  · rfl

theorem historyKeys_edit (edit : Edit) (now : ℕ) :
    historyKeys (edit.apply now orders) address = historyKeys orders address := by
  rw [historyKeys, Edit.apply, List.filter_map, List.map_map, historyKeys]
  have hrow : StoredOrder.historyKey ∘ edit.row now = StoredOrder.historyKey := by
    funext row
    simp [StoredOrder.historyKey]
  have hof : (fun row : StoredOrder => row.isOf address) ∘ edit.row now =
      fun row => row.isOf address := by
    funext row
    simp
  rw [hrow, hof]

/-- The orders have ids of the right form, and no two the same. -/
structure WellNamed (orders : List StoredOrder) : Prop where
  ids : ∀ row ∈ orders, isPublicId row.publicId
  unique : UniqueIds orders

theorem wellNamed_iff_of_ids {orders orders' : List StoredOrder}
    (h : orders'.map (·.publicId) = orders.map (·.publicId)) (hnamed : WellNamed orders) :
    WellNamed orders' where
  ids row hrow := by
    have hmem : row.publicId ∈ orders.map (·.publicId) := h ▸ List.mem_map_of_mem hrow
    obtain ⟨old, hold, hid⟩ := List.mem_map.mp hmem
    exact hid ▸ hnamed.ids old hold
  unique := by
    have hunique := hnamed.unique
    unfold UniqueIds at hunique ⊢
    rwa [h]

theorem isPublicId_random (random : RandomId) : isPublicId random.publicId := by
  rw [isPublicId, RandomId.publicId, String.toList_ofList, length_encodeHex, random.property]
  simpa using encodeHex_lower random.val

/-- An announcement adds a row, unless its id is taken. -/
theorem perform_announce (address : String) (now : ℕ) (random : RandomId) (input : AnnounceOrderInput)
    (hnamed : WellNamed db.orders) :
    WellNamed (perform now (.insertOrder random.publicId input) db).2.orders ∧
      historyKeys db.orders address ⊆
        historyKeys (perform now (.insertOrder random.publicId input) db).2.orders address := by
  rw [perform]
  cases htaken : db.byPublicId random.publicId with
  | some order => exact ⟨hnamed, List.Subset.refl _⟩
  | none =>
      have hfresh : random.publicId ∉ db.orders.map (·.publicId) := by
        simpa using findId_eq_none.mp htaken
      refine ⟨⟨?_, ?_⟩, ?_⟩
      · intro row hrow
        rcases List.mem_append.mp hrow with hold | hnew
        · exact hnamed.ids row hold
        · rw [List.mem_singleton.mp hnew]
          exact isPublicId_random random
      · have hunique := hnamed.unique
        unfold UniqueIds at hunique ⊢
        simp only [Option.isSome_none, Bool.false_eq_true, if_false, List.map_append,
          List.map_singleton]
        rw [← List.concat_eq_append]
        exact hunique.concat hfresh
      · simp [historyKeys]

/-- Every other statement leaves ids and keys as they are. -/
theorem perform_other (address : String) (now : ℕ) {stmt : Statement}
    (hinsert : ∀ publicId input, stmt ≠ .insertOrder publicId input) (hnamed : WellNamed db.orders) :
    WellNamed (perform now stmt db).2.orders ∧
      historyKeys (perform now stmt db).2.orders address = historyKeys db.orders address := by
  rcases statement_cases stmt with hreads | ⟨publicId, input, rfl⟩ | ⟨edit, rfl⟩
  · rw [perform_orders hreads]
    exact ⟨hnamed, rfl⟩
  · exact absurd rfl (hinsert publicId input)
  · rw [perform_edit]
    exact ⟨wellNamed_iff_of_ids (edit.apply_publicIds now db.orders) hnamed,
      historyKeys_edit edit now⟩

/-! ## Pages -/

/-- The rows a page shows. -/
def shownRows (db : Database) (address : String) (limit : ℕ) (before : Option Keyset) :
    List StoredOrder :=
  (OrdersRepository.findByAddressPage db address (limit + 1) before).take limit

theorem historyPage_transactions (before : Option Keyset) :
    (historyPage C network db address limit before).transactions =
      (shownRows db address limit before).map serialiseOrder := by
  rw [historyPage, shownRows]
  dsimp only
  split
  · rfl
  · next hmore =>
      rw [List.take_of_length_le]
      simpa using hmore

theorem historyPage_nextCursor (before : Option Keyset) :
    (historyPage C network db address limit before).pagination.nextCursor =
      if limit < (OrdersRepository.findByAddressPage db address (limit + 1) before).length then
        (shownRows db address limit before).getLast?.map fun last =>
          encodeHistoryCursor C last.createdAt last.publicId address network.text
      else none := by
  rw [historyPage, shownRows]
  by_cases hmore : limit < (OrdersRepository.findByAddressPage db address (limit + 1) before).length
  · simp only [hmore, decide_true, if_true]
    cases ((OrdersRepository.findByAddressPage db address (limit + 1) before).take limit).getLast?
      <;> rfl
  · simp [hmore]

theorem shownRows_keys (db : Database) (address : String) (limit : ℕ) (before : Option Keyset) :
    (shownRows db address limit before).map StoredOrder.historyKey =
      ((listing (historyKeys db.orders address) (before.map Keyset.key)).take (limit + 1)).take
        limit := by
  rw [shownRows, List.map_take, findByAddressPage_keys]

theorem length_findByAddressPage (limit : ℕ) (before : Option Keyset) :
    (OrdersRepository.findByAddressPage db address limit before).length =
      ((listing (historyKeys db.orders address) (before.map Keyset.key)).take limit).length := by
  rw [← findByAddressPage_keys, List.length_map]

/-! ## Clients as readers -/

def HistoryAnswer.isPage : HistoryAnswer → Bool
  | .page _ => true
  | _ => false

/-- What a client amounts to. -/
def HistorySession.reader (session : HistorySession) : Reader HistoryKey where
  served := session.transactions.map OrderView.historyKey
  pages := session.answers.countP HistoryAnswer.isPage
  position :=
    match session.next with
    | .finished => .finished
    | .page none => .start
    | .page (some _) =>
      match session.transactions.getLast? with
      | some last => .after last.historyKey
      | none => .start

/-- A client that goes on holds the cursor of the last order it was served. -/
def HistorySession.HoldsCursor (C : Conversions) (network : Network) (address : String)
    (session : HistorySession) : Prop :=
  ∀ cursor, session.next = .page (some cursor) →
    ∃ last, session.transactions.getLast? = some last ∧ isPublicId last.id ∧
      cursor = encodeHistoryCursor C last.createdAt last.id address network.text

/-- The client after a page. -/
def HistorySession.withPage (session : HistorySession) (page : HistoryPage)
    (existing : List StoredOrder) : HistorySession where
  answers := session.answers ++ [.page page]
  next :=
    match page.pagination.nextCursor with
    | some following => .page (some following)
    | none => .finished
  existing := existing

theorem withPage_transactions (session : HistorySession) (page : HistoryPage)
    (existing : List StoredOrder) :
    (session.withPage page existing).transactions = session.transactions ++ page.transactions := by
  simp [HistorySession.withPage, HistorySession.transactions, HistoryAnswer.transactions]

/-- A page is read as the reader reads it. -/
theorem withPage_reader (session : HistorySession) (before : Option Keyset)
    (existing : List StoredOrder) :
    (session.withPage (historyPage C network db address limit before) existing).reader =
      session.reader.readBelow (historyKeys db.orders address) limit (before.map Keyset.key) := by
  have hkeys := shownRows_keys db address limit before
  have htransactions : (session.withPage (historyPage C network db address limit before)
      existing).transactions =
        session.transactions ++ (shownRows db address limit before).map serialiseOrder := by
    rw [withPage_transactions, historyPage_transactions]
  have hviews : ((shownRows db address limit before).map serialiseOrder).map
      OrderView.historyKey = (shownRows db address limit before).map StoredOrder.historyKey := by
    rw [List.map_map]
    rfl
  rw [HistorySession.reader, Reader.readBelow, htransactions]
  congr 1
  · rw [List.map_append, hviews, hkeys]
    rfl
  · simp [HistorySession.withPage, HistorySession.reader, HistoryAnswer.isPage]
  · rw [HistorySession.withPage, historyPage_nextCursor, length_findByAddressPage, ← hkeys]
    split_ifs with hmore
    · cases hlast : (shownRows db address limit before).getLast? with
      | none => simp [hlast]
      | some last => simp [hlast]; rfl
    · rfl

/-! ## Requests -/

/-- An accepted request is answered with a page, if its query does not fail. -/
theorem historyRoute_accepted (db : Database)
    (hscope : historyScope C network query = .ok (address, limit))
    {cursor : Option String} {before : Option Keyset}
    (hbefore : historyBefore C network (cursor.map .text) address = .ok before) (fails : Bool) :
    historyRoute C network { query with cursor := cursor.map .text } fails db =
      if fails then .failed else .page (historyPage C network db address limit before) := by
  have hsame : historyScope C network { query with cursor := cursor.map .text } =
      .ok (address, limit) := hscope
  simp only [historyRoute, hsame, hbefore]

theorem readHistoryLimit_pos {raw : Option QueryValue} (h : readHistoryLimit C raw = some limit) :
    0 < limit := by
  simp only [readHistoryLimit] at h
  split at h
  · split_ifs at h with hrange
    obtain rfl := Option.some.inj h
    omega
  · contradiction

theorem historyScope_ok (hscope : historyScope C network query = .ok (address, limit)) :
    trim address ≠ "" ∧ 0 < limit := by
  simp only [historyScope] at hscope
  split at hscope
  · contradiction
  · next hempty =>
      split at hscope
      · contradiction
      · split at hscope
        · contradiction
        · next hlimit =>
            obtain ⟨rfl, rfl⟩ := Prod.mk.inj (Except.ok.inj hscope)
            exact ⟨trim_readHistoryAddress hempty, readHistoryLimit_pos hlimit⟩

/-- The cursor a client holds names the order it goes on below. -/
theorem historyBefore_cursor {view : OrderView} (hid : isPublicId view.id)
    (haddress : trim address ≠ "") :
    historyBefore C network
        (some (.text (encodeHistoryCursor C view.createdAt view.id address network.text))) address =
      .ok (some ⟨view.createdAt, view.id⟩) := by
  simp only [historyBefore, validateHistoryCursor_encode hid haddress]

variable {session : HistorySession}

/-- What a request does: nothing after the last page, or the answer is a failure, or it is the
page that the reader reads. -/
theorem request_cases (hscope : historyScope C network query = .ok (address, limit))
    (hholds : session.HoldsCursor C network address) (fails : Bool) (db : Database) :
    (session.next = .finished ∧ session.request C network query fails db = session) ∨
    (fails = true ∧ session.request C network query fails db =
      { session with answers := session.answers ++ [.failed] }) ∨
    (fails = false ∧ ∃ before existing,
      session.request C network query fails db =
        session.withPage (historyPage C network db address limit before) existing ∧
      session.reader.read (historyKeys db.orders address) limit =
        session.reader.readBelow (historyKeys db.orders address) limit (before.map Keyset.key) ∧
      (session.reader.position = .start ∧ existing = db.orders ∨
        session.reader.position ≠ .start ∧ existing = session.existing)) := by
  obtain ⟨haddress, -⟩ := historyScope_ok hscope
  cases hnext : session.next with
  | finished => exact .inl ⟨rfl, by rw [HistorySession.request, hnext]⟩
  | page cursor =>
      refine .inr ?_
      have hfound : ∃ before,
          historyBefore C network (cursor.map .text) address = .ok before ∧
          session.reader.read (historyKeys db.orders address) limit =
            session.reader.readBelow (historyKeys db.orders address) limit
              (before.map Keyset.key) ∧
          (cursor = none ↔ session.reader.position = .start) := by
        cases cursor with
        | none =>
            have hstart : session.reader.position = .start := by
              rw [HistorySession.reader, hnext]
            exact ⟨none, rfl, by rw [Reader.read, hstart]; rfl, iff_of_true rfl hstart⟩
        | some cursor =>
            obtain ⟨last, hlast, hid, rfl⟩ := hholds cursor hnext
            have hafter : session.reader.position = .after last.historyKey := by
              rw [HistorySession.reader, hnext]
              simp only [hlast]
            refine ⟨_, historyBefore_cursor hid haddress, by rw [Reader.read, hafter]; rfl, ?_⟩
            simp [hafter]
      obtain ⟨before, hbefore, hread, hstart⟩ := hfound
      have hanswer := historyRoute_accepted db hscope hbefore fails
      cases fails with
      | true =>
          refine .inl ⟨rfl, ?_⟩
          rw [HistorySession.request, hnext]
          simp only [hanswer, if_true]
      | false =>
          refine .inr ⟨rfl, before, if cursor = none then db.orders else session.existing, ?_,
            hread, ?_⟩
          · rw [HistorySession.request, hnext]
            simp only [hanswer, Bool.false_eq_true, if_false]
            rfl
          · by_cases hcursor : cursor = none
            · exact .inl ⟨hstart.mp hcursor, if_pos hcursor⟩
            · exact .inr ⟨fun h => hcursor (hstart.mpr h), if_neg hcursor⟩

/-! ## Steps -/

/-- What holds of every run of a client. -/
structure HistoryWorld.Sound (C : Conversions) (network : Network) (address : String) (limit : ℕ)
    (world : HistoryWorld) : Prop where
  named : WellNamed world.db.orders
  unrefused : ∀ answer ∈ world.session.answers, ∀ refusal, answer ≠ .refused refusal
  holds : world.session.HoldsCursor C network address
  existing : historyKeys world.session.existing address ⊆ historyKeys world.db.orders address
  start : world.session.reader.position = .start → world.session.existing = []
  reader : world.session.reader.Sound (historyKeys world.session.existing address)
    (historyKeys world.db.orders address) limit

theorem sound_initial (now : ℕ) : (HistoryWorld.initial now).Sound C network address limit where
  named := ⟨by simp [HistoryWorld.initial, Database.empty], List.nodup_nil⟩
  unrefused := by simp [HistoryWorld.initial]
  holds cursor hnext := by simp [HistoryWorld.initial] at hnext
  existing := List.nil_subset _
  start _ := rfl
  reader := Reader.sound_initial _ _ _

variable {world : HistoryWorld}

/-- Statements that keep the keys keep what holds. -/
theorem HistoryWorld.Sound.withDatabase (h : world.Sound C network address limit)
    (hnamed : WellNamed db.orders)
    (hkeys : historyKeys world.db.orders address ⊆ historyKeys db.orders address) (now : ℕ) :
    ({ db := db, now := now, session := world.session } : HistoryWorld).Sound C network address
      limit where
  named := hnamed
  unrefused := h.unrefused
  holds := h.holds
  existing _ hkey := hkeys (h.existing hkey)
  start := h.start
  reader := h.reader.mono hkeys

theorem failed_reader (session : HistorySession) :
    ({ session with answers := session.answers ++ [.failed] } : HistorySession).reader =
      session.reader := by
  simp [HistorySession.reader, HistorySession.transactions, HistoryAnswer.transactions,
    HistoryAnswer.isPage]

theorem failed_holdsCursor (h : session.HoldsCursor C network address) :
    ({ session with answers := session.answers ++ [.failed] } : HistorySession).HoldsCursor C
      network address := by
  intro cursor hnext
  simpa [HistorySession.transactions, HistoryAnswer.transactions] using h cursor hnext

/-- The last order of a page is one of the database. -/
theorem withPage_holdsCursor (hnamed : WellNamed db.orders) (session : HistorySession)
    (before : Option Keyset) (existing : List StoredOrder) :
    (session.withPage (historyPage C network db address limit before) existing).HoldsCursor C
      network address := by
  intro cursor hnext
  rw [withPage_transactions, historyPage_transactions]
  simp only [HistorySession.withPage, historyPage_nextCursor] at hnext
  split at hnext
  · next following hfollowing =>
      obtain rfl := Option.some.inj (NextRequest.page.inj hnext)
      split_ifs at hfollowing with hmore
      obtain ⟨last, hlast, rfl⟩ := Option.map_eq_some_iff.mp hfollowing
      have hmem : last ∈ db.orders :=
        mem_findByAddressPage (List.mem_of_mem_take (List.mem_of_getLast? hlast))
      refine ⟨serialiseOrder last, ?_, hnamed.ids last hmem, rfl⟩
      rw [List.getLast?_append, List.getLast?_map, hlast]
      rfl
  · contradiction

theorem withPage_unrefused (session : HistorySession) (page : HistoryPage)
    (existing : List StoredOrder)
    (h : ∀ answer ∈ session.answers, ∀ refusal, answer ≠ .refused refusal) :
    ∀ answer ∈ (session.withPage page existing).answers, ∀ refusal, answer ≠ .refused refusal := by
  intro answer hanswer refusal
  rcases List.mem_append.mp hanswer with hold | hnew
  · exact h answer hold refusal
  · rw [List.mem_singleton.mp hnew]
    exact HistoryAnswer.noConfusion

theorem withPage_started (hlimit : 0 < limit) (session : HistorySession) (before : Option Keyset)
    (existing : List StoredOrder) :
    (session.withPage (historyPage C network db address limit before) existing).reader.position ≠
      .start := by
  rw [withPage_reader]
  rcases session.reader.position_readBelow (historyKeys db.orders address) hlimit
    (before.map Keyset.key) with ⟨last, hafter, -⟩ | ⟨hfinished, -⟩
  · rw [hafter]
    simp
  · rw [hfinished]
    simp

theorem sound_request (hscope : historyScope C network query = .ok (address, limit))
    (h : world.Sound C network address limit) (fails : Bool) :
    (world.step C network query (.request fails)).Sound C network address limit := by
  obtain ⟨-, hlimit⟩ := historyScope_ok hscope
  have hkeys := historyKeys_nodup address h.named.unique
  rcases request_cases hscope h.holds fails world.db with
    ⟨-, hsame⟩ | ⟨-, hfailed⟩ | ⟨-, before, existing, hpage, hread, hexisting⟩
  · rw [HistoryWorld.step, hsame]
    exact h
  · rw [HistoryWorld.step, hfailed]
    refine ⟨h.named, ?_, failed_holdsCursor h.holds, h.existing, ?_, ?_⟩
    · simpa [or_imp, forall_and] using h.unrefused
    · rw [failed_reader]
      exact h.start
    · rw [failed_reader]
      exact h.reader
  · rw [HistoryWorld.step, hpage]
    refine ⟨h.named, withPage_unrefused _ _ _ h.unrefused,
      withPage_holdsCursor h.named _ _ _, ?_,
      fun hstart => absurd hstart (withPage_started hlimit _ _ _), ?_⟩
    · rcases hexisting with ⟨-, rfl⟩ | ⟨-, rfl⟩
      · exact List.Subset.refl _
      · exact h.existing
    · dsimp only
      rw [withPage_reader, ← hread]
      rcases hexisting with ⟨hstart, rfl⟩ | ⟨hstarted, rfl⟩
      · apply Reader.sound_read_start hkeys hlimit hstart
        have hreader := h.reader
        rwa [h.start hstart] at hreader
      · exact Reader.sound_read hkeys hlimit h.existing hstarted h.reader

theorem sound_step (hscope : historyScope C network query = .ok (address, limit))
    (h : world.Sound C network address limit) (event : HistoryEvent) :
    (world.step C network query event).Sound C network address limit := by
  cases event with
  | elapse seconds => exact h.withDatabase h.named (List.Subset.refl _) _
  | announce random input =>
      obtain ⟨hnamed, hkeys⟩ := perform_announce address world.now random input h.named
      exact h.withDatabase hnamed hkeys _
  | statement stmt hinsert =>
      obtain ⟨hnamed, hkeys⟩ := perform_other address world.now hinsert h.named
      exact h.withDatabase hnamed (fun _ hkey => hkeys.symm ▸ hkey) _
  | request fails => exact sound_request hscope h fails

theorem sound_run (hscope : historyScope C network query = .ok (address, limit))
    (h : world.Sound C network address limit) (events : List HistoryEvent) :
    (world.run C network query events).Sound C network address limit := by
  induction events generalizing world with
  | nil => exact h
  | cons event events ih => exact ih (sound_step hscope h event)

/-! ## Termination -/

theorem finished_iff (hholds : session.HoldsCursor C network address) :
    session.reader.position = .finished ↔ session.next = .finished := by
  cases hnext : session.next with
  | finished => simp [HistorySession.reader, hnext]
  | page cursor =>
      cases cursor with
      | none => simp [HistorySession.reader, hnext]
      | some cursor =>
          obtain ⟨last, hlast, -⟩ := hholds cursor hnext
          simp [HistorySession.reader, hnext, hlast]

/-- Steps add pages, and a request that does not fail adds one until the client has finished. -/
theorem pages_step (hscope : historyScope C network query = .ok (address, limit))
    (h : world.Sound C network address limit) (event : HistoryEvent) :
    world.session.reader.pages ≤ (world.step C network query event).session.reader.pages ∧
      (event = .request false → world.session.next ≠ .finished →
        world.session.reader.pages <
          (world.step C network query event).session.reader.pages) := by
  cases event with
  | request fails =>
      rw [HistoryWorld.step]
      rcases request_cases hscope h.holds fails world.db with
        ⟨hfinished, hsame⟩ | ⟨rfl, hfailed⟩ | ⟨-, before, existing, hpage, -, -⟩
      · rw [hsame]
        exact ⟨le_rfl, fun _ hunfinished => absurd hfinished hunfinished⟩
      · rw [hfailed, failed_reader]
        exact ⟨le_rfl, fun hfails => by simp at hfails⟩
      · have hmore : (world.session.withPage
            (historyPage C network world.db address limit before) existing).reader.pages =
              world.session.reader.pages + 1 := by
          rw [withPage_reader, Reader.readBelow]
        rw [hpage, hmore]
        exact ⟨Nat.le_succ _, fun _ _ => Nat.lt_succ_self _⟩
  | elapse seconds => exact ⟨le_rfl, fun h => by simp at h⟩
  | announce random input => exact ⟨le_rfl, fun h => by simp at h⟩
  | statement stmt hinsert => exact ⟨le_rfl, fun h => by simp at h⟩

/-- Without announcements the keys stay as they are. -/
theorem historyKeys_step {event : HistoryEvent} (hnamed : WellNamed world.db.orders)
    (hevent : ∀ random input, event ≠ .announce random input) :
    historyKeys (world.step C network query event).db.orders address =
      historyKeys world.db.orders address := by
  cases event with
  | elapse seconds => rfl
  | announce random input => exact absurd rfl (hevent random input)
  | statement stmt hinsert => exact (perform_other address world.now hinsert hnamed).2
  | request fails => rfl

section

variable (C network query) (now : ℕ) (events : ℕ → HistoryEvent)

/-- The world after the first events of a sequence. -/
def worldAt (n : ℕ) : HistoryWorld :=
  (HistoryWorld.initial now).run C network query ((List.range n).map events)

theorem worldAt_succ (n : ℕ) :
    worldAt C network query now events (n + 1) =
      (worldAt C network query now events n).step C network query (events n) := by
  simp [worldAt, HistoryWorld.run, List.range_succ]

end

theorem finishes (hscope : historyScope C network query = .ok (address, limit)) (now : ℕ)
    (events : ℕ → HistoryEvent)
    (hannounced : ∃ n, ∀ m ≥ n, ∀ random input, events m ≠ .announce random input)
    (hrequests : ∀ n, ∃ m ≥ n, events m = .request false) :
    ∃ n, (worldAt C network query now events n).session.next = .finished := by
  obtain ⟨n, hannounced⟩ := hannounced
  by_contra! hunfinished
  have hsound : ∀ m, (worldAt C network query now events m).Sound C network address limit :=
    fun m => sound_run hscope (sound_initial now) _
  -- From the last announcement on, the keys are the same and bound the pages.
  have hkeys : ∀ m ≥ n, historyKeys (worldAt C network query now events m).db.orders address =
      historyKeys (worldAt C network query now events n).db.orders address := by
    intro m hm
    induction m, hm using Nat.le_induction with
    | base => rfl
    | succ m hm ih =>
        rw [worldAt_succ, historyKeys_step (hsound m).named (hannounced m hm), ih]
  have hbound : ∀ m ≥ n, limit * (worldAt C network query now events m).session.reader.pages ≤
      (historyKeys (worldAt C network query now events n).db.orders address).length := by
    intro m hm
    rw [← hkeys m hm]
    exact (hsound m).reader.pages_le
      fun hfinished => hunfinished m ((finished_iff (hsound m).holds).mp hfinished)
  -- Requests keep adding pages.
  have hmono : Monotone fun m => (worldAt C network query now events m).session.reader.pages := by
    apply monotone_nat_of_le_succ
    intro m
    rw [worldAt_succ]
    exact (pages_step hscope (hsound m) (events m)).1
  have hgrow : ∀ pages, ∃ m ≥ n,
      pages ≤ (worldAt C network query now events m).session.reader.pages := by
    intro pages
    induction pages with
    | zero => exact ⟨n, le_rfl, Nat.zero_le _⟩
    | succ pages ih =>
        obtain ⟨m, hm, hpages⟩ := ih
        obtain ⟨k, hk, hrequest⟩ := hrequests m
        refine ⟨k + 1, by omega, ?_⟩
        have hmore := (pages_step hscope (hsound k) (events k)).2 hrequest (hunfinished k)
        rw [← worldAt_succ] at hmore
        exact lt_of_le_of_lt (hpages.trans (hmono hk)) hmore
  obtain ⟨m, hm, hpages⟩ := hgrow
    ((historyKeys (worldAt C network query now events n).db.orders address).length + 1)
  obtain ⟨-, hlimit⟩ := historyScope_ok hscope
  have hserved := Nat.le_mul_of_pos_left
    (worldAt C network query now events m).session.reader.pages hlimit
  exact absurd (hserved.trans (hbound m hm)) (by omega)

/-! ## Complete histories -/

/-- Orders served are ones of the database, so none of their ids comes twice. -/
theorem served_ids_nodup (h : world.Sound C network address limit) :
    (world.session.transactions.map (·.id)).Nodup := by
  have hdescending := List.pairwise_map.mp h.reader.descending
  refine List.pairwise_map.mpr (hdescending.imp_of_mem fun {a b} ha hb hgt hid => ?_)
  have hkey := historyKeys_id h.named.unique (h.reader.subset (List.mem_map_of_mem ha))
    (h.reader.subset (List.mem_map_of_mem hb)) hid
  exact hgt.ne' hkey

theorem served_once (h : world.Sound C network address limit)
    (hfinished : world.session.next = .finished) {order : StoredOrder}
    (horder : order ∈ world.session.existing) (haddress : order.isOf address) :
    (world.session.transactions.map (·.id)).count order.publicId = 1 := by
  have hkey : order.historyKey ∈ historyKeys world.session.existing address :=
    mem_historyKeys.mpr ⟨order, horder, haddress, rfl⟩
  have hserved := h.reader.finished ((finished_iff h.holds).mpr hfinished) _ hkey
  obtain ⟨view, hview, hsame⟩ := List.mem_map.mp hserved
  have hid : view.id = order.publicId := congrArg (fun key : HistoryKey => (ofLex key).2) hsame
  apply List.count_eq_one_of_mem (served_ids_nodup h)
  rw [← hid]
  exact List.mem_map_of_mem hview

/-- Following `nextCursor` from the first page is never refused, serves orders in strictly
decreasing order, ends unless orders keep coming, and has then served every order of the address
that there was when it began exactly once. -/
theorem history_complete (hscope : historyScope C network query = .ok (address, limit)) (now : ℕ) :
    (∀ events,
      let session := ((HistoryWorld.initial now).run C network query events).session
      (∀ answer ∈ session.answers, ∀ refusal, answer ≠ .refused refusal) ∧
      (session.transactions.Pairwise fun a b =>
        b.createdAt < a.createdAt ∨ (b.createdAt = a.createdAt ∧ b.id < a.id)) ∧
      (session.next = .finished → ∀ order ∈ session.existing, order.isOf address →
        (session.transactions.map (·.id)).count order.publicId = 1)) ∧
    (∀ events : ℕ → HistoryEvent,
      (∃ n, ∀ m ≥ n, ∀ random input, events m ≠ .announce random input) →
      (∀ n, ∃ m ≥ n, events m = .request false) →
      ∃ n, ((HistoryWorld.initial now).run C network query
        ((List.range n).map events)).session.next = .finished) := by
  refine ⟨fun events => ?_, finishes hscope now⟩
  have h := sound_run hscope (sound_initial now) events
  refine ⟨h.unrefused, ?_, fun hfinished _ horder haddress =>
    served_once h hfinished horder haddress⟩
  have hdescending := List.pairwise_map.mp h.reader.descending
  exact hdescending.imp fun hgt => Prod.Lex.toLex_lt_toLex.mp hgt

/-- Conversions that agree with the language's on ASCII. -/
def asciiConversions : Conversions where
  toLowerCase s := String.ofList (s.toList.map Char.toLower)
  toLowerCase_plain s h := by
    have hsame : ∀ c ∈ s.toList, c.toLower = id c := by
      intro c hc
      refine dif_neg ?_
      rintro ⟨hge, hle⟩
      rcases h c hc with hdigit | hlower
      · have hnine := of_decide_eq_true (Bool.and_eq_true_iff.mp hdigit).2
        exact absurd (UInt32.le_trans hge hnine) (by decide)
      · have ha := of_decide_eq_true (Bool.and_eq_true_iff.mp hlower).1
        exact absurd (UInt32.le_trans ha hle) (by decide)
    have hmap : s.toList.map Char.toLower = s.toList :=
      (List.map_congr_left hsame).trans (List.map_id _)
    rw [hmap, String.ofList_toList]
  toLowerCase_ne_empty s hs := by
    simpa using hs
  toInteger
    | .text s => parseBigInt s
    | .other _ => none

/-- Two orders a page. -/
def pairQuery : HistoryQuery where
  address := some (.text "GUSER")
  eth := none
  stellar := none
  network := none
  limit := some (.text "2")
  cursor := none

def randomOf (n : UInt8) : RandomId := ⟨List.replicate 16 n, rfl⟩

def announcedBy : AnnounceOrderInput :=
  { direction := .xlmToEth, hashlock := "0x01", srcChain := .stellar, srcAddress := "GUSER"
    srcAsset := "native", srcAmount := "5", srcSafetyDeposit := "0", dstChain := .ethereum
    dstAddress := "0x02", dstAsset := "native", dstAmount := "7" }

/-- Three orders of one second, and a fourth between the pages. -/
def threeListed : List HistoryEvent :=
  [.announce (randomOf 1) announcedBy, .announce (randomOf 2) announcedBy,
    .announce (randomOf 3) announcedBy, .request false, .announce (randomOf 4) announcedBy,
    .request false]

theorem history_complete_three :
    let session := ((HistoryWorld.initial 1000).run asciiConversions .testnet pairQuery
      threeListed).session
    session.next = .finished ∧
      ∀ order ∈ session.existing, order.isOf "GUSER" →
        (session.transactions.map (·.id)).count order.publicId = 1 := by
  have hscope : historyScope asciiConversions .testnet pairQuery = .ok ("GUSER", 2) := rfl
  have hfinished : ((HistoryWorld.initial 1000).run asciiConversions .testnet pairQuery
      threeListed).session.next = .finished := by decide +kernel
  exact ⟨hfinished, ((history_complete hscope 1000).1 threeListed).2.2 hfinished⟩

end OverSync.Coordinator
