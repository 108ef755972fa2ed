import Dfs.Cluster.Network
import Mathlib.Data.List.Basic

/-!
Listeners that come and go: a new one takes no connections from those that were there,
and when it is gone, the network is as it was.
-/

namespace Dfs

/-- An address of version 6 that is not one of version 4 stays as it is. -/
theorem Ip.unmapped_of_eq_v6 {a : Ip} {ip : Ipv6} (same : a.unmapped = .v6 ip) :
    (Ip.v6 ip).unmapped = .v6 ip := by
  unfold unmapped at same
  split at same
  · cases same
  split at same
  · cases same
  next mapped =>
  obtain rfl := Ip.v6.inj same
  exact if_neg mapped

theorem Address.ip_ofIp (ip : Ip) (port : UInt16) : (Address.ofIp ip port).ip = ip := by
  cases ip <;> rfl

theorem Address.port_ofIp (ip : Ip) (port : UInt16) : (Address.ofIp ip port).port = port := by
  cases ip <;> rfl

namespace Network

variable {ρ : Type} {net net' : Network ρ} {a bound target : Address} {role : ρ}

theorem serves_self (a : Address) : serves a a = true := by
  unfold serves
  cases a.ip.unmapped <;> simp

/-- Two endpoints that take connections to one address cannot both listen. -/
theorem clashes_of_serves {b : Address} (first : serves a target = true)
    (second : serves b target = true) : clashes a b = true := by
  unfold serves at first second
  unfold clashes serves
  simp only [Bool.and_eq_true, beq_iff_eq] at first second
  obtain ⟨port, first⟩ := first
  obtain ⟨port', second⟩ := second
  rw [port, port']
  revert first second
  cases a.ip.unmapped <;> cases b.ip.unmapped <;> cases target.ip.unmapped <;>
    simp only [Bool.or_eq_true, beq_iff_eq, beq_self_eq_true, Bool.true_and] <;> aesop

theorem ne_of_not_clashes {b : Address} (apart : clashes a b = false) : a ≠ b := by
  rintro rfl
  simp [clashes, serves_self] at apart

/-- An endpoint that starts to listen comes after the others, and takes no connections from
them. -/
theorem bind_eq_ok (done : net.bind a role = .ok (bound, net')) :
    net' = { net with listeners := net.listeners ++ [(bound, role)] } ∧
      ∀ l ∈ net.listeners, clashes l.1 bound = false := by
  unfold bind at done
  split at done
  · cases done
  split at done
  · cases done
  next port chosen =>
  dsimp only at done
  split at done
  · cases done
  · next free =>
      obtain ⟨rfl, rfl⟩ := Prod.mk.inj (Except.ok.inj done)
      rw [Bool.not_eq_true, List.any_eq_false] at free
      exact ⟨rfl, fun l mem => Bool.eq_false_iff.mpr (free l mem)⟩

/-- A port that is chosen is not the one that leaves it open. -/
theorem choosePort_ne_zero {port : UInt16} (chosen : net.choosePort a = some port) : port ≠ 0 := by
  unfold choosePort at chosen
  split at chosen
  · next fixed =>
      obtain rfl := Option.some.inj chosen
      exact fixed
  · obtain ⟨n, small, rfl⟩ := List.mem_map.mp (List.mem_of_find?_eq_some chosen)
    have inRange := List.mem_range.mp small
    intro zero
    have open' := congrArg UInt16.toNat zero
    rw [UInt16.toNat_ofNat', UInt16.toNat_zero] at open'
    omega

/-- The address listened on is that which was given, and its port is fixed. -/
theorem bound_of_bind (done : net.bind a role = .ok (bound, net')) :
    bound.ip = a.ip ∧ bound.port ≠ 0 := by
  unfold bind at done
  split at done
  · cases done
  split at done
  · cases done
  next port chosen =>
  dsimp only at done
  split at done
  · cases done
  · obtain ⟨rfl, -⟩ := Prod.mk.inj (Except.ok.inj done)
    rw [Address.ip_ofIp, Address.port_ofIp]
    exact ⟨rfl, choosePort_ne_zero chosen⟩

/-- Who is reached stays reached when others listen too. -/
theorem connect_append {extra : List (Address × ρ)} (reached : net.connect target = .ok role) :
    Network.connect { net with listeners := net.listeners ++ extra } target = .ok role := by
  unfold connect at reached ⊢
  dsimp only
  split at reached
  · cases reached
  · split at reached
    · next l found =>
        rw [List.find?_append, found]
        exact reached
    · cases reached

/-- A connection to the target goes to an endpoint that listens at the other address. -/
def Leads (target bound : Address) : Prop :=
  serves bound (.ofIp target.ip.destination target.port) = true

/-- The address of an endpoint leads to it. -/
theorem Leads.self (a : Address) : Leads a a := by
  unfold Leads serves Ip.destination
  cases unmapped : a.ip.unmapped with
  | v4 ip =>
      by_cases all : ip = ⟨0, 0, 0, 0⟩
      · simp [Address.ofIp, Address.ip, Address.port, Ip.unmapped, Ip.isUnspecified, all]
      · simp [Address.ofIp, Address.ip, Address.port, Ip.unmapped, all]
  | v6 ip =>
      have same : (Ip.v6 ip).unmapped = .v6 ip := Ip.unmapped_of_eq_v6 unmapped
      by_cases all : ip = ⟨0, 0, 0, 0, 0, 0, 0, 0⟩
      · have loopback : (Ip.v6 ⟨0, 0, 0, 0, 0, 0, 0, 1⟩).unmapped =
            .v6 ⟨0, 0, 0, 0, 0, 0, 0, 1⟩ := rfl
        simp [Address.ofIp, Address.ip, Address.port, Ip.isUnspecified, loopback, all]
      · simp [Address.ofIp, Address.ip, Address.port, same, all]

/-- What leads to an endpoint leads to no other one. -/
theorem connect_of_clear (clear : ∀ l ∈ net.listeners, clashes l.1 bound = false)
    (leads : Leads target bound) : ∃ fault, net.connect target = .error fault := by
  unfold connect
  split
  · exact ⟨_, rfl⟩
  · have nobody : net.listeners.find? (fun l =>
        serves l.1 (.ofIp target.ip.destination target.port)) = none := by
      rw [List.find?_eq_none]
      intro l mem reached
      have apart := clear l mem
      rw [clashes_of_serves reached leads] at apart
      cases apart
    rw [nobody]
    exact ⟨_, rfl⟩

theorem exists_listener_of_connect (reached : net.connect target = .ok role) :
    ∃ l ∈ net.listeners, l.2 = role := by
  unfold connect at reached
  split at reached
  · cases reached
  · split at reached
    · next l found => exact ⟨l, List.mem_of_find?_eq_some found, Except.ok.inj reached⟩
    · cases reached

/-- What has started to listen is gone when its address is released. -/
theorem release_append_self (clear : ∀ l ∈ net.listeners, clashes l.1 bound = false) :
    Network.release { net with listeners := net.listeners ++ [(bound, role)] } bound = net := by
  have kept : net.listeners.filter (fun l => l.1 != bound) = net.listeners := by
    rw [List.filter_eq_self]
    intro l mem
    simpa using ne_of_not_clashes (clear l mem)
  unfold release
  dsimp only
  rw [List.filter_append, kept]
  simp

/-- Two endpoints that have started to listen are gone when both addresses are released. -/
theorem release_append_two {other : Address} {role' : ρ}
    (clear : ∀ l ∈ net.listeners, clashes l.1 bound = false)
    (clear' : ∀ l ∈ net.listeners ++ [(bound, role)], clashes l.1 other = false) :
    Network.release (Network.release
      { net with listeners := net.listeners ++ [(bound, role)] ++ [(other, role')] } bound) other =
      net := by
  have apart : bound ≠ other := ne_of_not_clashes (clear' (bound, role) (by simp))
  have first : (net.listeners ++ [(bound, role)]).filter (fun l => l.1 != bound) = net.listeners :=
    congrArg Network.listeners (release_append_self clear)
  have second : Network.release { net with listeners := net.listeners ++ [(other, role')] } other =
      net := release_append_self fun l mem => clear' l (List.mem_append_left _ mem)
  have kept : Network.release
      { net with listeners := net.listeners ++ [(bound, role)] ++ [(other, role')] } bound =
      { net with listeners := net.listeners ++ [(other, role')] } := by
    unfold release
    dsimp only
    rw [List.filter_append, first]
    simp [apart.symm]
  rw [kept, second]

end Network

end Dfs
