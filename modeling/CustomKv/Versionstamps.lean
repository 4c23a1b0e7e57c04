import CustomKv.Steps

/-!
# Where the versionstamp goes

`setVersionstampedValue` ignores its offset and sends the value with ten zero bytes appended;
`setVersionstampedKey` ignores its offset and sends the key as it is. The server, as the wrapper's
comments describe it, overwrites the last ten bytes of the buffer it receives with the commit's
versionstamp. So a successful commit stores the value followed by the stamp, ten bytes longer
than the value, wherever the offset pointed. The key, sent without the room for the stamp that
its comment places at the end of the prefix, has its own last ten bytes overwritten.
-/

namespace CustomKv

/-- Each mutation of a commit is written with the stamp of its position. -/
theorem mem_commitWrites {m : Mutation} {ms : List Mutation} (h : m ∈ ms) (version n : Nat) :
    ∃ seq, m.write (versionstamp version seq) ∈ commitWrites version n ms := by
  induction ms generalizing n with
  | nil => cases h
  | cons m' ms ih =>
    rcases List.mem_cons.mp h with rfl | h
    · exact ⟨n, .head _⟩
    · obtain ⟨seq, hs⟩ := ih h (n + 1)
      exact ⟨seq, .tail _ hs⟩

/-- The ten zero bytes the wrapper appends are what the stamp overwrites. -/
@[simp] theorem stampBuffer_padded (v stamp : Bytes) :
    stampBuffer (v ++ List.replicate 10 0) stamp = v ++ stamp := by
  simp [stampBuffer]

namespace System

variable {s : System} {i : Nat}

/-- A commit that succeeds appends the transaction's mutations, stamped, as the next version. -/
theorem Inv.commits_of_commit_ok (hs : s.Inv) (hf : (s.rw i).finished = false)
    (hok : (s.step (.rw i .commit)).lastOutcome = some (.ret (.unit (.ok ())))) :
    (s.step (.rw i .commit)).world.server.commits = s.world.server.commits ++
      [commitWrites (s.world.server.latest + 1) 0 (writesOf i s.trace)] := by
  obtain ⟨ho, hc⟩ := hs.step_commit hf
  cases h : s.world.server.conflicts (s.serverTxn i)
  · simpa [h] using hc
  · rw [ho, h, if_pos rfl] at hok
    simp [makeError] at hok

theorem mem_writesOf {tr : List Event} {c : RwCall} (hc : c ∈ callsOf i tr) {m : Mutation}
    (hm : c.sentWrite = some m) : m ∈ writesOf i tr :=
  List.mem_filterMap.mpr ⟨c, hc, hm⟩

end System

open System in
theorem versionstamp_appended_offset_ignored {s : System} {i : Nat} (hs : s.Reachable)
    (hf : (s.rw i).finished = false)
    (hok : (s.step (.rw i .commit)).lastOutcome = some (.ret (.unit (.ok ())))) :
    (s.step (.rw i .commit)).world.server.commits = s.world.server.commits ++
      [commitWrites (s.world.server.latest + 1) 0 (writesOf i s.trace)] ∧
    (∀ k v o, .setVersionstampedValue k v o ∈ callsOf i s.trace → k ≠ [] →
      ∃ seq, (k, some (v ++ versionstamp (s.world.server.latest + 1) seq)) ∈
        commitWrites (s.world.server.latest + 1) 0 (writesOf i s.trace)) := by
  refine ⟨hs.inv.commits_of_commit_ok hf hok, fun k v o hm hk => ?_⟩
  obtain ⟨seq, h⟩ := mem_commitWrites (mem_writesOf hm (m := .setVersionstampedValue k
    (v ++ List.replicate 10 0)) (by simp [RwCall.sentWrite, hk])) (s.world.server.latest + 1) 0
  exact ⟨seq, by simpa only [Mutation.write, stampBuffer_padded] using h⟩

/-- The presence marker of a `Distributor` registration: a 10-byte zero placeholder written with
`setVersionstampedValue` at offset `0`. -/
def presenceMarkerSent : System :=
  (System.init .healthy (fun _ => 0) (fun _ => 0)).run
    [.rw 0 (.setVersionstampedValue [7] (List.replicate 10 0) 0)]

open System in
theorem presenceMarker_commit :
    presenceMarkerSent.Reachable ∧ (presenceMarkerSent.rw 0).finished = false ∧
    (presenceMarkerSent.step (.rw 0 .commit)).lastOutcome = some (.ret (.unit (.ok ()))) ∧
    (presenceMarkerSent.step (.rw 0 .commit)).world.server.commits =
      presenceMarkerSent.world.server.commits ++
        [commitWrites (presenceMarkerSent.world.server.latest + 1) 0
          (writesOf 0 presenceMarkerSent.trace)] ∧
    (∀ k v o,
      .setVersionstampedValue k v o ∈ callsOf 0 presenceMarkerSent.trace → k ≠ [] →
      ∃ seq, (k, some (v ++ versionstamp (presenceMarkerSent.world.server.latest + 1) seq)) ∈
        commitWrites (presenceMarkerSent.world.server.latest + 1) 0
          (writesOf 0 presenceMarkerSent.trace)) :=
  have h : presenceMarkerSent.Reachable := ⟨_, _, _, _, Env.healthy_healthy, rfl⟩
  ⟨h, by decide, by decide, versionstamp_appended_offset_ignored h (by decide) (by decide)⟩

/-- After the commit the marker holds the ten zero bytes followed by the stamp: twenty bytes, not
the stamp alone. -/
theorem presenceMarker_stores_placeholder_and_stamp :
    (((presenceMarkerSent.step (.rw 0 .commit)).world.server.snapshot 1).get [7]) =
      some (List.replicate 10 0 ++ versionstamp 1 0) := by
  decide

end CustomKv
