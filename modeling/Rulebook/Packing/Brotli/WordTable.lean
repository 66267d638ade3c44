import Rulebook.Digest.Text

/-!
# Table of common words

Words and parts of words that are often found in pages, by their number of bytes. The bytes are
spelled in the address-safe alphabet.
-/

namespace Rulebook.Packing.Brotli

/-- The spelled words, all words of a length one after another. -/
def spelledWords : List (Nat × String) := [
  (4, "
    dGltZWRvd25saWZlbGVmdGJhY2tjb2RlZGF0YXNob3dvbmx5c2l0ZWNpdHlvcGVuanVzdGxpa2VmcmVld29ya3RleHR5ZW
    Fyb3ZlcmJvZHlsb3ZlZm9ybWJvb2twbGF5bGl2ZWxpbmVoZWxwaG9tZXNpZGVtb3Jld29yZGxvbmd0aGVtdmlld2ZpbmRw
    YWdlZGF5c2Z1bGxoZWFkdGVybWVhY2hhcmVhZnJvbXRydWVtYXJrYWJsZXVwb25oaWdoZGF0ZWxhbmRuZXdzZXZlbm5leH
    RjYXNlYm90aHBvc3R1c2VkbWFkZWhhbmRoZXJld2hhdG5hbWVMaW5rYmxvZ3NpemViYXNlaGVsZG1ha2VtYWludXNlcicp
    ICtob2xkZW5kc3dpdGhOZXdzcmVhZHdlcmVzaWdudGFrZWhhdmVnYW1lc2VlbmNhbGxwYXRod2VsbHBsdXNtZW51ZmlsbX
    BhcnRqb2ludGhpc2xpc3Rnb29kbmVlZHdheXN3ZXN0am9ic21pbmRhbHNvbG9nb3JpY2h1c2VzbGFzdHRlYW1hcm15Zm9v
    ZGtpbmd3aWxsZWFzdHdhcmRiZXN0ZmlyZVBhZ2Vrbm93YXdheS5wbmdtb3ZldGhhbmxvYWRnaXZlc2VsZm5vdGVtdWNoZm
    VlZG1hbnlyb2NraWNvbm9uY2Vsb29raGlkZWRpZWRIb21lcnVsZWhvc3RhamF4aW5mb2NsdWJsYXdzbGVzc2hhbGZzb21l
    c3VjaHpvbmUxMDAlb25lc2NhcmVUaW1lcmFjZWJsdWVmb3Vyd2Vla2ZhY2Vob3BlZ2F2ZWhhcmRsb3N0d2hlbnBhcmtrZX
    B0cGFzc3NoaXByb29tSFRNTHBsYW5UeXBlZG9uZXNhdmVrZWVwZmxhZ2xpbmtzb2xkZml2ZXRvb2tyYXRldG93bmp1bXB0
    aHVzZGFya2NhcmRmaWxlZmVhcnN0YXlraWxsdGhhdGZhbGxhdXRvZXZlci5jb210YWxrc2hvcHZvdGVkZWVwbW9kZXJlc3
    R0dXJuYm9ybmJhbmRmZWxscm9zZXVybChza2lucm9sZWNvbWVhY3RzYWdlc21lZXRnb2xkLmpwZ2l0ZW12YXJ5ZmVsdHRo
    ZW5zZW5kZHJvcFZpZXdjb3B5MS4wIjwvYT5zdG9wZWxzZWxpZXN0b3VycGFjay5naWZwYXN0Y3NzP2dyYXltZWFuJmd0O3
    JpZGVzaG90bGF0ZXNhaWRyb2FkdmFyIGZlZWxqb2hucmlja3BvcnRmYXN0J1VBLWRlYWQ8L2I-cG9vcmJpbGx0eXBlVS5T
    Lndvb2RtdXN0MnB4O0luZm9yYW5rd2lkZXdhbnR3YWxsbGVhZFswXTtwYXVsd2F2ZXN1cmUkKCcjd2FpdG1hc3Nhcm1zZ2
    9lc2dhaW5sYW5ncGFpZCEtLSBsb2NrdW5pdHJvb3R3YWxrZmlybXdpZmV4bWwic29uZ3Rlc3QyMHB4a2luZHJvd3N0b29s
    Zm9udG1haWxzYWZlc3Rhcm1hcHNjb3JlcmFpbmZsb3diYWJ5c3BhbnNheXM0cHg7NnB4O2FydHNmb290cmVhbHdpa2loZW
    F0c3RlcHRyaXBvcmcvbGFrZXdlYWt0b2xkRm9ybWNhc3RmYW5zYmFua3ZlcnlydW5zanVseXRhc2sxcHg7Z29hbGdyZXdz
    bG93ZWRnZWlkPSJzZXRzNXB4Oy5qcz80MHB4aWYgKHNvb25zZWF0bm9uZXR1YmV6ZXJvc2VudHJlZWRmYWN0aW50b2dpZn
    RoYXJtMThweGNhbWVoaWxsYm9sZHpvb212b2lkZWFzeXJpbmdmaWxscGVha2luaXRjb3N0M3B4O2phY2t0YWdzYml0c3Jv
    bGxlZGl0a25ld25lYXI8IS0tZ3Jvd0pTT05kdXR5TmFtZXNhbGV5b3UgbG90c3BhaW5qYXp6Y29sZGV5ZXNmaXNod3d3Ln
    Jpc2t0YWJzcHJldjEwcHhyaXNlMjVweEJsdWVkaW5nMzAwLGJhbGxmb3JkZWFybndpbGRib3guZmFpcmxhY2t2ZXJzcGFp
    cmp1bmV0ZWNoaWYoIXBpY2tldmlsJCgiI3dhcm1sb3JkZG9lc3B1bGwsMDAwaWRlYWRyYXdodWdlc3BvdGZ1bmRidXJuaH
    JlZmNlbGxrZXlzdGlja2hvdXJsb3NzZnVlbDEycHhzdWl0ZGVhbFJTUyJhZ2VkZ3JleUdFVCJlYXNlYWltc2dpcmxhaWRz
    OHB4O25hdnlncmlkdGlwcyM5OTl3YXJzbGFkeWNhcnMpOyB9cGhwP2hlbGx0YWxsd2hvbXpoOuUqLw0KIDEwMGhhbGwuCg
    pBN3B4O3B1c2hjaGF0MHB4O2NyZXcqLzwvaGFzaDc1cHhmbGF0cmFyZSAmJiB0ZWxsY2FtcG9udG9sYWlkbWlzc3NraXB0
    ZW50ZmluZW1hbGVnZXRzcGxvdDQwMCwNCg0KY29vbGZlZXQucGhwPGJyPmVyaWNtb3N0Z3VpZGJlbGxkZXNjaGFpcm1hdG
    hhdG9tL2ltZyYjODJsdWNrY2VudDAwMDt0aW55Z29uZWh0bWxzZWxsZHJ1Z0ZSRUVub2Rlbmljaz9pZD1sb3NlbnVsbHZh
    c3R3aW5kUlNTIHdlYXJyZWx5YmVlbnNhbWVkdWtlbmFzYWNhcGV3aXNoZ3VsZlQyMzpoaXRzc2xvdGdhdGVraWNrYmx1cn
    RoZXkxNXB4JycpOyk7Ij5tc2lld2luc2JpcmRzb3J0YmV0YXNlZWtUMTg6b3Jkc3RyZWVtYWxsNjBweGZhcm3igJlzYm95
    c1swXS4nKTsiUE9TVGJlYXJraWRzKTt9fW1hcnl0ZW5kKFVLKXF1YWR6aDrmLXNpei0tLS1wcm9wJyk7DWxpZnRUMTk6dm
    ljZWFuZHlkZWJ0PlJTU3Bvb2xuZWNrYmxvd1QxNjpkb29yZXZhbFQxNzpsZXRzZmFpbG9yYWxwb2xsbm92YWNvbHNnZW5l
    IOKAlHNvZnRyb21ldGlsbHJvc3M8aDM-cG91cmZhZGVwaW5rPHRyPm1pbmkpfCEobWluZXpoOuhiYXJzaGVhcjAwKTttaW
    xrIC0tPmlyb25mcmVkZGlza3dlbnRzb2lscHV0cy9qcy9ob2x5VDIyOklTQk5UMjA6YWRhbXNlZXM8aDI-anNvbicsICdj
    b250VDIxOiBSU1Nsb29wYXNpYW1vb248L3A-c291bExJTkVmb3J0Y2FydFQxNDo8aDE-ODBweCEtLTw5cHg7VDA0Om1pa2
    U6NDZabmljZWluY2hZb3JrcmljZXpoOuQnKSk7cHVyZW1hZ2VwYXJhdG9uZWJvbmQ6MzdaX29mXyddKTswMDAsemg653Rh
    bmt5YXJkYm93bGJ1c2g6NTZaSmF2YTMwcHgKfH0KJUMzJTozNFpqZWZmRVhQSWNhc2h2aXNhZ29sZnNub3d6aDrpcXVlci
    5jc3NzaWNrbWVhdG1pbi5iaW5kZGVsbGhpcmVwaWNzcmVudDozNlpIVFRQLTIwMWZvdG93b2xmRU5EIHhib3g6NTRaQk9E
    WWRpY2s7Cn0KZXhpdDozNVp2YXJzYmVhdCd9KTtkaWV0OTk5O2FubmV9fTwvW2ldLkxhbmdrbcKyd2lyZXRveXNhZGRzc2
    VhbGFsZXg7Cgl9ZWNob25pbmUub3JnMDA1KXRvbnlqZXdzc2FuZGxlZ3Nyb29mMDAwKSAyMDB3aW5lZ2VhcmRvZ3Nib290
    Z2FyeWN1dHN0eWxldGVtcHRpb24ueG1sY29ja2dhbmckKCcuNTBweFBoLkRtaXNjYWxhbmxvYW5kZXNrbWlsZXJ5YW51bm
    l4ZGlzYyk7fQpkdXN0Y2xpcCkuCgo3MHB4LTIwMERWRHM3XT48dGFwZWRlbW9pKyspd2FnZWV1cm9waGlsb3B0c2hvbGVG
    QVFzYXNpbi0yNlRsYWJzcGV0c1VSTCBidWxrY29vazt9DQpIRUFEWzBdKWFiYnJqdWFuKDE5OGxlc2h0d2luPC9pPnNvbn
    lndXlzZnVja3BpcGV8LQohMDAyKW5kb3dbMV07W107CkxvZyBzYWx0DQoJCWJhbmd0cmltYmF0aCl7DQowMHB4Cn0pO2tv
    OuxmZWVzYWQ-DXM6Ly8gW107dG9sbHBsdWcoKXsKew0KIC5qcycyMDBwZHVhbGJvYXQuSlBHKTsKfXF1b3QpOwoKJyk7Cg
    0KfQ0yMDE0MjAxNTIwMTYyMDE3MjAxODIwMTkyMDIwMjAyMTIwMjIyMDIzMjAyNDIwMjUyMDI2MjAyNzIwMjgyMDI5MjAz
    MDIwMzEyMDMyMjAzMzIwMzQyMDM1MjAzNjIwMzcyMDEzMjAxMjIwMTEyMDEwMjAwOTIwMDgyMDA3MjAwNjIwMDUyMDA0Mj
    AwMzIwMDIyMDAxMjAwMDE5OTkxOTk4MTk5NzE5OTYxOTk1MTk5NDE5OTMxOTkyMTk5MTE5OTAxOTg5MTk4ODE5ODcxOTg2
    MTk4NTE5ODQxOTgzMTk4MjE5ODExOTgwMTk3OTE5NzgxOTc3MTk3NjE5NzUxOTc0MTk3MzE5NzIxOTcxMTk3MDE5NjkxOT
    Y4MTk2NzE5NjYxOTY1MTk2NDE5NjMxOTYyMTk2MTE5NjAxOTU5MTk1ODE5NTcxOTU2MTk1NTE5NTQxOTUzMTk1MjE5NTEx
    OTUwMTAwMDEwMjQxMzk0MDAwMDk5OTljb21vbcOhc2VzdGVlc3RhcGVyb3RvZG9oYWNlY2FkYWHDsW9iaWVuZMOtYWFzw6
    12aWRhY2Fzb290cm9mb3Jvc29sb290cmFjdWFsZGlqb3NpZG9ncmFudGlwb3RlbWFkZWJlYWxnb3F1w6llc3RvbmFkYXRy
    ZXNwb2NvY2FzYWJham90b2Rhc2lub2FndWFwdWVzdW5vc2FudGVkaWNlbHVpc2VsbGFtYXlvem9uYWFtb3JwaXNvb2JyYW
    NsaWNlbGxvZGlvc2hvcmFjYXNp0LfQsNC90LDQvtC80YDQsNGA0YPRgtCw0L3QtdC_0L7QvtGC0LjQt9C90L7QtNC-0YLQ
    vtC20LXQvtC90LjRhdCd0LDQtdC10LHRi9C80YvQktGL0YHQvtCy0YvQstC-0J3QvtC-0LHQn9C-0LvQuNC90LjQoNCk0J
    3QtdCc0YvRgtGL0J7QvdC40LzQtNCw0JfQsNCU0LDQndGD0J7QsdGC0LXQmNC30LXQudC90YPQvNC80KLRi9GD0LbZgdmK
    2KPZhtmF2KfZhdi52YPZhNij2YjYsdiv2YrYp9mB2YnZh9mI2YTZhdmE2YPYp9mI2YTZh9io2LPYp9mE2KXZhtmH2YrYo9
    mK2YLYr9mH2YTYq9mF2KjZh9mE2YjZhNmK2KjZhNin2YrYqNmD2LTZitin2YXYo9mF2YbYqtio2YrZhNmG2K3YqNmH2YXZ
    hdi02YjYtA
    "),
  (5, "
    Zmlyc3R2aWRlb2xpZ2h0d29ybGRtZWRpYXdoaXRlY2xvc2VibGFja3JpZ2h0c21hbGxib29rc3BsYWNlbXVzaWNmaWVsZG
    9yZGVycG9pbnR2YWx1ZWxldmVsdGFibGVib2FyZGhvdXNlZ3JvdXB3b3Jrc3llYXJzc3RhdGV0b2RheXdhdGVyc3RhcnRz
    dHlsZWRlYXRocG93ZXJwaG9uZW5pZ2h0ZXJyb3JpbnB1dGFib3V0dGVybXN0aXRsZXRvb2xzZXZlbnRsb2NhbHRpbWVzbG
    FyZ2V3b3Jkc2dhbWVzc2hvcnRzcGFjZWZvY3VzY2xlYXJtb2RlbGJsb2NrZ3VpZGVyYWRpb3NoYXJld29tZW5hZ2Fpbm1v
    bmV5aW1hZ2VuYW1lc3lvdW5nbGluZXNsYXRlcmNvbG9yZ3JlZW5mcm9udCZhbXA7d2F0Y2hmb3JjZXByaWNlcnVsZXNiZW
    dpbmFmdGVydmlzaXRpc3N1ZWFyZWFzYmVsb3dpbmRleHRvdGFsaG91cnNsYWJlbHByaW50cHJlc3NidWlsdGxpbmtzc3Bl
    ZWRzdHVkeXRyYWRlZm91bmRzZW5zZXVuZGVyc2hvd25mb3Jtc3JhbmdlYWRkZWRzdGlsbG1vdmVkdGFrZW5hYm92ZWZsYX
    NoZml4ZWRvZnRlbm90aGVydmlld3NjaGVja2xlZ2Fscml2ZXJpdGVtc3F1aWNrc2hhcGVodW1hbmV4aXN0Z29pbmdtb3Zp
    ZXRoaXJkYmFzaWNwZWFjZXN0YWdld2lkdGhsb2dpbmlkZWFzd3JvdGVwYWdlc3VzZXJzZHJpdmVzdG9yZWJyZWFrc291dG
    h2b2ljZXNpdGVzbW9udGh3aGVyZWJ1aWxkd2hpY2hlYXJ0aGZvcnVtdGhyZWVzcG9ydHBhcnR5Q2xpY2tsb3dlcmxpdmVz
    Y2xhc3NsYXllcmVudHJ5c3Rvcnl1c2FnZXNvdW5kY291cnR5b3VyIGJpcnRocG9wdXB0eXBlc2FwcGx5SW1hZ2ViZWluZ3
    VwcGVybm90ZXNldmVyeXNob3dzbWVhbnNleHRyYW1hdGNodHJhY2trbm93bmVhcmx5YmVnYW5zdXBlcnBhcGVybm9ydGhs
    ZWFybmdpdmVubmFtZWRlbmRlZFRlcm1zcGFydHNHcm91cGJyYW5kdXNpbmd3b21hbmZhbHNlcmVhZHlhdWRpb3Rha2Vzd2
    hpbGUuY29tL2xpdmVkY2FzZXNkYWlseWNoaWxkZ3JlYXRqdWRnZXRob3NldW5pdHNuZXZlcmJyb2FkY29hc3Rjb3ZlcmFw
    cGxlZmlsZXNjeWNsZXNjZW5lcGxhbnNjbGlja3dyaXRlcXVlZW5waWVjZWVtYWlsZnJhbWVvbGRlcnBob3RvbGltaXRjYW
    NoZWNpdmlsc2NhbGVlbnRlcnRoZW1ldGhlcmV0b3VjaGJvdW5kcm95YWxhc2tlZHdob2xlc2luY2VzdG9jayBuYW1lZmFp
    dGhoZWFydGVtcHR5b2ZmZXJzY29wZW93bmVkbWlnaHRhbGJ1bXRoaW5rYmxvb2RhcnJheW1ham9ydHJ1c3RjYW5vbnVuaW
    9uY291bnR2YWxpZHN0b25lU3R5bGVMb2dpbmhhcHB5b2NjdXJsZWZ0OmZyZXNocXVpdGVmaWxtc2dyYWRlbmVlZHN1cmJh
    bmZpZ2h0YmFzaXNob3ZlcmF1dG87cm91dGUuaHRtbG1peGVkZmluYWxZb3VyIHNsaWRldG9waWNicm93bmFsb25lZHJhd2
    5zcGxpdHJlYWNoUmlnaHRkYXRlc21hcmNocXVvdGVnb29kc0xpbmtzZG91YnRhc3luY3RodW1iYWxsb3djaGllZnlvdXRo
    bm92ZWwxMHB4O3NlcnZldW50aWxoYW5kc0NoZWNrU3BhY2VxdWVyeWphbWVzZXF1YWx0d2ljZTAsMDAwU3RhcnRwYW5lbH
    Nvbmdzcm91bmRlaWdodHNoaWZ0d29ydGhwb3N0c2xlYWRzd2Vla3Nhdm9pZHRoZXNlbWlsZXNwbGFuZXNtYXJ0YWxwaGFw
    bGFudG1hcmtzcmF0ZXNwbGF5c2NsYWltc2FsZXN0ZXh0c3N0YXJzd3Jvbmc8L2gzPnRoaW5nLm9yZy9tdWx0aWhlYXJkUG
    93ZXJzdGFuZHRva2Vuc29saWQodGhpc2JyaW5nc2hpcHNzdGFmZnRyaWVkY2FsbHNmdWxseWZhY3RzYWdlbnRUaGlzIC8v
    LS0-YWRtaW5lZ3lwdEV2ZW50MTVweDtFbWFpbHRydWUiY3Jvc3NzcGVudGJsb2dzYm94Ij5ub3RlZGxlYXZlY2hpbmFzaX
    plc2d1ZXN0PC9oND5yb2JvdGhlYXZ5dHJ1ZSxzZXZlbmdyYW5kY3JpbWVzaWduc2F3YXJlZGFuY2VwaGFzZT48IS0tZW5f
    VVMmIzM5OzIwMHB4X25hbWVsYXRpbmVuam95YWpheC5hdGlvbnNtaXRoVS5TLiBob2xkc3BldGVyaW5kaWFuYXYiPmNoYW
    luc2NvcmVjb21lc2RvaW5ncHJpb3JTaGFyZTE5OTBzcm9tYW5saXN0c2phcGFuZmFsbHN0cmlhbG93bmVyYWdyZWU8L2gy
    PmFidXNlYWxlcnRvcGVyYSItLy9XY2FyZHNoaWxsc3RlYW1zUGhvdG90cnV0aGNsZWFuLnBocD9zYWludG1ldGFsbG91aX
    NtZWFudHByb29mYnJpZWZyb3ciPmdlbnJldHJ1Y2tsb29rc1ZhbHVlRnJhbWUubmV0Ly0tPgo8dHJ5IHsKdmFyIG1ha2Vz
    Y29zdHNwbGFpbmFkdWx0cXVlc3R0cmFpbmxhYm9yaGVscHNjYXVzZW1hZ2ljbW90b3J0aGVpcjI1MHB4bGVhc3RzdGVwc0
    NvdW50Y291bGRnbGFzc3NpZGVzZnVuZHNob3RlbGF3YXJkbW91dGhtb3Zlc3BhcmlzZ2l2ZXNkdXRjaHRleGFzZnJ1aXRu
    dWxsLHx8W107dG9wIj4KPCEtLVBPU1Qib2NlYW48YnIvPmZsb29yc3BlYWtkZXB0aCBzaXplYmFua3NjYXRjaGNoYXJ0Mj
    BweDthbGlnbmRlYWxzd291bGQ1MHB4O3VybD0icGFya3Ntb3VzZU1vc3QgLi4uPC9hbW9uZ2JyYWluYm9keSBub25lO2Jh
    c2VkY2FycnlkcmFmdHJlZmVycGFnZV9ob21lLm1ldGVyZGVsYXlkcmVhbXByb3Zlam9pbnQ8L3RyPmRydWdzPCEtLSBhcH
    JpbGlkZWFsYWxsZW5leGFjdGZvcnRoY29kZXNsb2dpY1ZpZXcgc2VlbXNibGFua3BvcnRzICgyMDBzYXZlZF9saW5rZ29h
    bHNncmFudGdyZWVraG9tZXNyaW5nc3JhdGVkMzBweDt3aG9zZXBhcnNlKCk7IiBCbG9ja2xpbnV4am9uZXNwaXhlbCcpOy
    I-KTtpZigtbGVmdGRhdmlkaG9yc2VGb2N1c3JhaXNlYm94ZXNUcmFja2VtZW50PC9lbT5iYXIiPi5zcmM9dG93ZXJhbHQ9
    ImNhYmxlaGVucnkyNHB4O3NldHVwaXRhbHlzaGFycG1pbm9ydGFzdGV3YW50c3RoaXMucmVzZXR3aGVlbGdpcmxzL2Nzcy
    8xMDAlO2NsdWJzc3R1ZmZiaWJsZXZvdGVzIDEwMDBrb3JlYX0pOw0KYmFuZHNxdWV1ZT0ge307ODBweDtja2luZ3sNCgkJ
    YWhlYWRjbG9ja2lyaXNobGlrZSByYXRpb3N0YXRzRm9ybSJ5YWhvbylbMF07QWJvdXRmaW5kczwvaDE-ZGVidWd0YXNrc1
    VSTCA9Y2VsbHN9KSgpOzEycHg7cHJpbWV0ZWxsc3R1cm5zMHg2MDAuanBnInNwYWluYmVhY2h0YXhlc21pY3JvYW5nZWwt
    LT48L2dpZnRzc3RldmUtbGlua2JvZHkufSk7Cgltb3VudCAoMTk5RkFRPC9yb2dlcmZyYW5rQ2xhc3MyOHB4O2ZlZWRzPG
    gxPjxzY290dHRlc3RzMjJweDtkcmluaykgfHwgbGV3aXNzaGFsbCMwMzk7IGZvciBsb3ZlZHdhc3RlMDBweDtqYTrjgnNp
    bW9uPGZvbnRyZXBseW1lZXRzdW50ZXJjaGVhcHRpZ2h0QnJhbmQpICE9IGRyZXNzY2xpcHNyb29tc29ua2V5bW9iaWxtYW
    luLk5hbWUgcGxhdGVmdW5ueXRyZWVzY29tLyIxLmpwZ3dtb2RlcGFyYW1TVEFSVGxlZnQgaWRkZW4sIDIwMSk7Cn0KZm9y
    bS52aXJ1c2NoYWlydHJhbnN3b3JzdFBhZ2VzaXRpb25wYXRjaDwhLS0Kby1jYWNmaXJtc3RvdXJzLDAwMCBhc2lhbmkrKy
    l7YWRvYmUnKVswXWlkPTEwYm90aDttZW51IC4yLm1pLnBuZyJrZXZpbmNvYWNoQ2hpbGRicnVjZTIuanBnVVJMKSsuanBn
    fHN1aXRlc2xpY2VoYXJyeTEyMCIgc3dlZXR0cj4NCm5hbWU9ZGllZ29wYWdlIHN3aXNzLS0-CgojZmZmOyI-TG9nLmNvbS
    J0cmVhdHNoZWV0KSAmJiAxNHB4O3NsZWVwbnRlbnRmaWxlZGphOuODaWQ9ImNOYW1lIndvcnNlc2hvdHMtYm94LWRlbHRh
    CiZsdDtiZWFyczo0OFo8ZGF0YS1ydXJhbDwvYT4gc3BlbmRiYWtlcnNob3BzPSAiIjtwaHAiPmN0aW9uMTNweDticmlhbm
    hlbGxvc2l6ZT1vPSUyRiBqb2lubWF5YmU8aW1nIGltZyI-LCBmanNpbWciICIpWzBdTVRvcEJUeXBlIm5ld2x5RGFuc2tj
    emVjaHRyYWlsa25vd3M8L2g1PmZhcSI-emgtY24xMCk7Ci0xIik7dHlwZT1ibHVlc3RydWx5ZGF2aXMuanMnOz4NCjwhc3
    RlZWwgeW91IGgyPg0KZm9ybSBqZXN1czEwMCUgbWVudS4NCgkNCndhbGVzcmlza3N1bWVudGRkaW5nYi1saWt0ZWFjaGdp
    ZiIgdmVnYXNkYW5za2Vlc3Rpc2hxaXBzdW9taXNvYnJlZGVzZGVlbnRyZXRvZG9zcHVlZGVhw7Fvc2VzdMOhdGllbmVoYX
    N0YW90cm9zcGFydGVkb25kZW51ZXZvaGFjZXJmb3JtYW1pc21vbWVqb3JtdW5kb2FxdcOtZMOtYXNzw7Nsb2F5dWRhZmVj
    aGF0b2Rhc3RhbnRvbWVub3NkYXRvc290cmFzc2l0aW9tdWNob2Fob3JhbHVnYXJtYXlvcmVzdG9zaG9yYXN0ZW5lcmFudG
    VzZm90b3Nlc3Rhc3Bhw61zbnVldmFzYWx1ZGZvcm9zbWVkaW9xdWllbm1lc2VzcG9kZXJjaGlsZXNlcsOhdmVjZXNkZWNp
    cmpvc8OpZXN0YXJ2ZW50YWdydXBvaGVjaG9lbGxvc3RlbmdvYW1pZ29jb3Nhc25pdmVsZ2VudGVtaXNtYWFpcmVzanVsaW
    90ZW1hc2hhY2lhZmF2b3JqdW5pb2xpYnJlcHVudG9idWVub2F1dG9yYWJyaWxidWVuYXRleHRvbWFyem9zYWJlcmxpc3Rh
    bHVlZ29jw7Ntb2VuZXJvanVlZ29wZXLDumhhYmVyZXN0b3ludW5jYW11amVydmFsb3JmdWVyYWxpYnJvZ3VzdGFpZ3VhbH
    ZvdG9zY2Fzb3NndcOtYXB1ZWRvc29tb3Nhdmlzb3VzdGVkZGViZW5ub2NoZWJ1c2NhZmFsdGFldXJvc3NlcmllZGljaG9j
    dXJzb2NsYXZlY2FzYXNsZcOzbnBsYXpvbGFyZ29vYnJhc3Zpc3RhYXBveW9qdW50b3RyYXRhdmlzdG9jcmVhcmNhbXBvaG
    Vtb3NjaW5jb2NhcmdvcGlzb3NvcmRlbmhhY2Vuw6FyZWFkaXNjb3BlZHJvY2VyY2FwdWVkYXBhcGVsbWVub3LDunRpbGNs
    YXJvam9yZ2VjYWxsZXBvbmVydGFyZGVuYWRpZW1hcmNhc2lndWVlbGxhc3NpZ2xvY29jaGVtb3Rvc21hZHJlY2xhc2VyZX
    N0b25pw7FvcXVlZGFwYXNhcmJhbmNvaGlqb3N2aWFqZXBhYmxvw6lzdGV2aWVuZXJlaW5vZGVqYXJmb25kb2NhbmFsbm9y
    dGVsZXRyYWNhdXNhdG9tYXJtYW5vc2x1bmVzYXV0b3N2aWxsYXZlbmRvcGVzYXJ0aXBvc3RlbmdhbWFyY29sbGV2YXBhZH
    JldW5pZG92YW1vc3pvbmFzYW1ib3NiYW5kYW1hcmlhYWJ1c29tdWNoYXN1YmlycmlvamF2aXZpcmdyYWRvY2hpY2FhbGzD
    rWpvdmVuZGljaGFlc3RhbnRhbGVzc2FsaXJzdWVsb3Blc29zZmluZXNsbGFtYWJ1c2Nvw6lzdGFsbGVnYW5lZ3JvcGxhem
    FodW1vcnBhZ2FyanVudGFkb2JsZWlzbGFzYm9sc2FiYcOxb2hhYmxhbHVjaGHDgXJlYWRpY2VuanVnYXJub3Rhc3ZhbGxl
    YWxsw6FjYXJnYWRvbG9yYWJham9lc3TDqWd1c3RvbWVudGVtYXJpb2Zpcm1hY29zdG9maWNoYXBsYXRhaG9nYXJhcnRlc2
    xleWVzYXF1ZWxtdXNlb2Jhc2VzcG9jb3NtaXRhZGNpZWxvY2hpY29taWVkb2dhbmFyc2FudG9ldGFwYWRlYmVzcGxheWFy
    ZWRlc3NpZXRlY29ydGVjb3JlYWR1ZGFzZGVzZW92aWVqb2Rlc2VhYWd1YXM
    "),
  (6, "
    JnF1b3Q7ZG9tYWluY29tbW9uc3RhdHVzZXZlbnRzbWFzdGVyc3lzdGVtYWN0aW9uYmFubmVycmVtb3Zlc2Nyb2xsdXBkYX
    RlZ2xvYmFsbWVkaXVtZmlsdGVybnVtYmVyY2hhbmdlcmVzdWx0cHVibGljc2NyZWVuY2hvb3Nlbm9ybWFsdHJhdmVsaXNz
    dWVzc291cmNldGFyZ2V0c3ByaW5nbW9kdWxlbW9iaWxlc3dpdGNocGhvdG9zYm9yZGVycmVnaW9uaXRzZWxmc29jaWFsYW
    N0aXZlY29sdW1ucmVjb3JkZm9sbG93dGl0bGU-ZWl0aGVybGVuZ3RoZmFtaWx5ZnJpZW5kbGF5b3V0YXV0aG9yY3JlYXRl
    cmV2aWV3c3VtbWVyc2VydmVycGxheWVkcGxheWVyZXhwYW5kcG9saWN5Zm9ybWF0ZG91YmxlcG9pbnRzc2VyaWVzcGVyc2
    9ubGl2aW5nZGVzaWdubW9udGhzZm9yY2VzdW5pcXVld2VpZ2h0cGVvcGxlZW5lcmd5bmF0dXJlc2VhcmNoZmlndXJlaGF2
    aW5nY3VzdG9tb2Zmc2V0bGV0dGVyd2luZG93c3VibWl0cmVuZGVyZ3JvdXBzdXBsb2FkaGVhbHRobWV0aG9kdmlkZW9zc2
    Nob29sZnV0dXJlc2hhZG93ZGViYXRldmFsdWVzT2JqZWN0b3RoZXJzcmlnaHRzbGVhZ3VlY2hyb21lc2ltcGxlbm90aWNl
    c2hhcmVkZW5kaW5nc2Vhc29ucmVwb3J0b25saW5lc3F1YXJlYnV0dG9uaW1hZ2VzZW5hYmxlbW92aW5nbGF0ZXN0d2ludG
    VyRnJhbmNlcGVyaW9kc3Ryb25ncmVwZWF0TG9uZG9uZGV0YWlsZm9ybWVkZGVtYW5kc2VjdXJlcGFzc2VkdG9nZ2xlcGxh
    Y2VzZGV2aWNlc3RhdGljY2l0aWVzc3RyZWFteWVsbG93YXR0YWNrc3RyZWV0ZmxpZ2h0aGlkZGVuaW5mbyI-b3BlbmVkdX
    NlZnVsdmFsbGV5Y2F1c2VzbGVhZGVyc2VjcmV0c2Vjb25kZGFtYWdlc3BvcnRzZXhjZXB0cmF0aW5nc2lnbmVkdGhpbmdz
    ZWZmZWN0ZmllbGRzc3RhdGVzb2ZmaWNldmlzdWFsZWRpdG9ydm9sdW1lUmVwb3J0bXVzZXVtbW92aWVzcGFyZW50YWNjZX
    NzbW9zdGx5bW90aGVyIiBpZD0ibWFya2V0Z3JvdW5kY2hhbmNlc3VydmV5YmVmb3Jlc3ltYm9sbW9tZW50c3BlZWNobW90
    aW9uaW5zaWRlbWF0dGVyQ2VudGVyb2JqZWN0ZXhpc3RzbWlkZGxlRXVyb3BlZ3Jvd3RobGVnYWN5bWFubmVyZW5vdWdoY2
    FyZWVyYW5zd2Vyb3JpZ2lucG9ydGFsY2xpZW50c2VsZWN0cmFuZG9tY2xvc2VkdG9waWNzY29taW5nZmF0aGVyb3B0aW9u
    c2ltcGx5cmFpc2VkZXNjYXBlY2hvc2VuY2h1cmNoZGVmaW5lcmVhc29uY29ybmVyb3V0cHV0bWVtb3J5aWZyYW1lcG9saW
    NlbW9kZWxzTnVtYmVyZHVyaW5nb2ZmZXJzc3R5bGVza2lsbGVkbGlzdGVkY2FsbGVkc2lsdmVybWFyZ2luZGVsZXRlYmV0
    dGVyYnJvd3NlbGltaXRzR2xvYmFsc2luZ2xld2lkZ2V0Y2VudGVyYnVkZ2V0bm93cmFwY3JlZGl0Y2xhaW1zZW5naW5lc2
    FmZXR5Y2hvaWNlc3Bpcml0LXN0eWxlc3ByZWFkbWFraW5nbmVlZGVkcnVzc2lhcGxlYXNlZXh0ZW50U2NyaXB0YnJva2Vu
    YWxsb3dzY2hhcmdlZGl2aWRlZmFjdG9ybWVtYmVyLWJhc2VkdGhlb3J5Y29uZmlnYXJvdW5kd29ya2VkaGVscGVkQ2h1cm
    NoaW1wYWN0c2hvdWxkYWx3YXlzbG9nbyIgYm90dG9tbGlzdCI-KXt2YXIgcHJlZml4b3JhbmdlSGVhZGVyLnB1c2goY291
    cGxlZ2FyZGVuYnJpZGdlbGF1bmNoUmV2aWV3dGFraW5ndmlzaW9ubGl0dGxlZGF0aW5nQnV0dG9uYmVhdXR5dGhlbWVzZm
    9yZ290U2VhcmNoYW5jaG9yYWxtb3N0bG9hZGVkQ2hhbmdlcmV0dXJuc3RyaW5ncmVsb2FkTW9iaWxlaW5jb21lc3VwcGx5
    U291cmNlb3JkZXJzdmlld2VkJm5ic3A7Y291cnNlQWJvdXQgaXNsYW5kPGh0bWwgY29va2llbmFtZT0iYW1hem9ubW9kZX
    JuYWR2aWNlaW48L2E-OiBUaGUgZGlhbG9naG91c2VzQkVHSU4gTWV4aWNvc3RhcnRzY2VudHJlaGVpZ2h0YWRkaW5nSXNs
    YW5kYXNzZXRzRW1waXJlU2Nob29sZWZmb3J0ZGlyZWN0bmVhcmx5bWFudWFsU2VsZWN0LgoKT25lam9pbmVkbWVudSI-UG
    hpbGlwYXdhcmRzaGFuZGxlaW1wb3J0T2ZmaWNlcmVnYXJkc2tpbGxzbmF0aW9uU3BvcnRzZGVncmVld2Vla2x5IChlLmcu
    YmVoaW5kZG9jdG9ybG9nZ2VkdW5pdGVkPC9iPjwvYmVnaW5zcGxhbnRzYXNzaXN0YXJ0aXN0aXNzdWVkMzAwcHh8Y2FuYW
    RhYWdlbmN5c2NoZW1lcmVtYWluQnJhemlsc2FtcGxlbG9nbyI-YmV5b25kLXNjYWxlYWNjZXB0c2VydmVkbWFyaW5lRm9v
    dGVyY2FtZXJhPC9oMT4KX2Zvcm0ibGVhdmVzc3RyZXNzIiAvPg0KLmdpZiIgb25sb2FkbG9hZGVyT3hmb3Jkc2lzdGVyc3
    Vydml2bGlzdGVuZmVtYWxlRGVzaWduc2l6ZT0iYXBwZWFsdGV4dCI-bGV2ZWxzdGhhbmtzaGlnaGVyZm9yY2VkYW5pbWFs
    YW55b25lQWZyaWNhYWdyZWVkcmVjZW50UGVvcGxlPGJyIC8-d29uZGVycHJpY2VzdHVybmVkfHwge307bWFpbiI-aW5saW
    5lc3VuZGF5d3JhcCI-ZmFpbGVkY2Vuc3VzbWludXRlYmVhY29ucXVvdGVzMTUwcHh8ZXN0YXRlcmVtb3RlZW1haWwibGlu
    a2VkcmlnaHQ7c2lnbmFsZm9ybWFsMS5odG1sc2lnbnVwcHJpbmNlZmxvYXQ6LnBuZyIgZm9ydW0uQWNjZXNzcGFwZXJzc2
    91bmRzZXh0ZW5kSGVpZ2h0c2xpZGVyVVRGLTgiJmFtcDsgQmVmb3JlLiBXaXRoc3R1ZGlvb3duZXJzbWFuYWdlcHJvZml0
    alF1ZXJ5YW5udWFscGFyYW1zYm91Z2h0ZmFtb3VzZ29vZ2xlbG9uZ2VyaSsrKSB7aXNyYWVsc2F5aW5nZGVjaWRlaG9tZS
    I-aGVhZGVyZW5zdXJlYnJhbmNocGllY2VzYmxvY2s7c3RhdGVkdG9wIj48cmFjaW5ncmVzaXplLS0mZ3Q7cGFjaXR5c2V4
    dWFsYnVyZWF1LmpwZyIgMTAsMDAwb2J0YWludGl0bGVzYW1vdW50LCBJbmMuY29tZWR5bWVudSIgbHlyaWNzdG9kYXkuaW
    5kZWVkY291bnR5X2xvZ28uRmFtaWx5bG9va2VkTWFya2V0bHNlIGlmUGxheWVydHVya2V5KTt2YXIgZm9yZXN0Z2l2aW5n
    ZXJyb3JzRG9tYWlufWVsc2V7aW5zZXJ0QmxvZzwvZm9vdGVybG9naW4uZmFzdGVyYWdlbnRzPGJvZHkgMTBweCAwcHJhZ2
    1hZnJpZGF5anVuaW9yZG9sbGFycGxhY2VkY292ZXJzcGx1Z2luNSwwMDAgcGFnZSI-Ym9zdG9uLnRlc3QoYXZhdGFydGVz
    dGVkX2NvdW50Zm9ydW1zc2NoZW1haW5kZXgsZmlsbGVkc2hhcmVzcmVhZGVyYWxlcnQoYXBwZWFyU3VibWl0bGluZSI-Ym
    9keSI-CiogVGhlVGhvdWdoc2VlaW5namVyc2V5TmV3czwvdmVyaWZ5ZXhwZXJ0aW5qdXJ5d2lkdGg9Q29va2llU1RBUlQg
    YWNyb3NzX2ltYWdldGhyZWFkbmF0aXZlcG9ja2V0Ym94Ij4KU3lzdGVtIERhdmlkY2FuY2VydGFibGVzcHJvdmVkQXByaW
    wgcmVhbGx5ZHJpdmVyaXRlbSI-bW9yZSI-Ym9hcmRzY29sb3JzY2FtcHVzZmlyc3QgfHwgW107bWVkaWEuZ3VpdGFyZmlu
    aXNod2lkdGg6c2hvd2VkT3RoZXIgLnBocCIgYXNzdW1lbGF5ZXJzd2lsc29uc3RvcmVzcmVsaWVmc3dlZGVuQ3VzdG9tZW
    FzaWx5IHlvdXIgU3RyaW5nCgpXaGlsdGF5bG9yY2xlYXI6cmVzb3J0ZnJlbmNodGhvdWdoIikgKyAiPGJvZHk-YnV5aW5n
    YnJhbmRzTWVtYmVybmFtZSI-b3BwaW5nc2VjdG9yNXB4OyI-dnNwYWNlcG9zdGVybWFqb3IgY29mZmVlbWFydGlubWF0dX
    JlaGFwcGVuPC9uYXY-a2Fuc2FzbGluayI-SW1hZ2VzPWZhbHNld2hpbGUgaHNwYWNlMCZhbXA7IAoKSW4gIHBvd2VyUG9s
    c2tpLWNvbG9yam9yZGFuQm90dG9tU3RhcnQgLWNvdW50Mi5odG1sbmV3cyI-MDEuanBnT25saW5lLXJpZ2h0bWlsbGVyc2
    VuaW9ySVNCTiAwMCwwMDAgZ3VpZGVzdmFsdWUpZWN0aW9ucmVwYWlyLnhtbCIgIHJpZ2h0cy5odG1sLWJsb2NrcmVnRXhw
    OmhvdmVyd2l0aGludmlyZ2lucGhvbmVzPC90cj4NdXNpbmcgCgl2YXIgPicpOwoJPC90ZD4KPC90cj4KYmFoYXNhYnJhc2
    lsZ2FsZWdvbWFneWFycG9sc2tpc3Jwc2tp2LHYr9mI5Lit5paH566A5L2T57mB6auU5L-h5oGv5Lit5Zu95oiR5Lus5LiA
    5Liq5YWs5Y-4566h55CG6K665Z2b5Y-v5Lul5pyN5Yqh5pe26Ze05Liq5Lq65Lqn5ZOB6Ieq5bex5LyB5Lia5p-l55yL5b
    el5L2c6IGU57O75rKh5pyJ572R56uZ5omA5pyJ6K-E6K665Lit5b-D5paH56ug55So5oi36aaW6aG15L2c6ICF5oqA5pyv
    6Zeu6aKY55u45YWz5LiL6L295pCc57Si5L2_55So6L2v5Lu25Zyo57q_5Li76aKY6LWE5paZ6KeG6aKR5Zue5aSN5rOo5Y
    aM572R57uc5pS26JeP5YaF5a655o6o6I2Q5biC5Zy65raI5oGv56m66Ze05Y-R5biD5LuA5LmI5aW95Y-L55Sf5rS75Zu-
    54mH5Y-R5bGV5aaC5p6c5omL5py65paw6Ze75pyA5paw5pa55byP5YyX5Lqs5o-Q5L6b5YWz5LqO5pu05aSa6L-Z5Liq57
    O757uf55-l6YGT5ri45oiP5bm_5ZGK5YW25LuW5Y-R6KGo5a6J5YWo56ys5LiA5Lya5ZGY6L-b6KGM54K55Ye754mI5p2D
    55S15a2Q5LiW55WM6K6-6K6h5YWN6LS55pWZ6IKy5Yqg5YWl5rS75Yqo5LuW5Lus5ZWG5ZOB5Y2a5a6i546w5Zyo5LiK5r
    W35aaC5L2V5bey57uP55WZ6KiA6K-m57uG56S-5Yy655m75b2V5pys56uZ6ZyA6KaB5Lu35qC85pSv5oyB5Zu96ZmF6ZO-
    5o6l5Zu95a625bu66K6-5pyL5Y-L6ZiF6K-75rOV5b6L5L2N572u57uP5rWO6YCJ5oup6L-Z5qC35b2T5YmN5YiG57G75o
    6S6KGM5Zug5Li65Lqk5piT5pyA5ZCO6Z-z5LmQ5LiN6IO96YCa6L-H6KGM5Lia56eR5oqA5Y-v6IO96K6-5aSH5ZCI5L2c
    5aSn5a6256S-5Lya56CU56m25LiT5Lia5YWo6YOo6aG555uu6L-Z6YeM6L-Y5piv5byA5aeL5oOF5Ya155S16ISR5paH5L
    u25ZOB54mM5biu5Yqp5paH5YyW6LWE5rqQ5aSn5a2m5a2m5Lmg5Zyw5Z2A5rWP6KeI5oqV6LWE5bel56iL6KaB5rGC5oCO
    5LmI5pe25YCZ5Yqf6IO95Li76KaB55uu5YmN6LWE6K6v5Z-O5biC5pa55rOV55S15b2x5oub6IGY5aOw5piO5Lu75L2V5Y
    Gl5bq35pWw5o2u576O5Zu95rG96L2m5LuL57uN5L2G5piv5Lqk5rWB55Sf5Lqn5omA5Lul55S16K-d5pi-56S65LiA5Lqb
    5Y2V5L2N5Lq65ZGY5YiG5p6Q5Zyw5Zu-5peF5ri45bel5YW35a2m55Sf57O75YiX572R5Y-L5biW5a2Q5a-G56CB6aKR6Y
    GT5o6n5Yi25Zyw5Yy65Z-65pys5YWo5Zu9572R5LiK6YeN6KaB56ys5LqM5Zac5qyi6L-b5YWl5Y-L5oOF6L-Z5Lqb6ICD
    6K-V5Y-R546w5Z-56K6t5Lul5LiK5pS_5bqc5oiQ5Li6546v5aKD6aaZ5riv5ZCM5pe25aix5LmQ5Y-R6YCB5LiA5a6a5b
    yA5Y-R5L2c5ZOB5qCH5YeG5qyi6L-O6Kej5Yaz5Zyw5pa55LiA5LiL5Lul5Y-K6LSj5Lu75oiW6ICF5a6i5oi35Luj6KGo
    56ev5YiG5aWz5Lq65pWw56CB6ZSA5ZSu5Ye6546w56a757q_5bqU55So5YiX6KGo5LiN5ZCM57yW6L6R57uf6K6h5p-l6K
    -i5LiN6KaB5pyJ5YWz5py65p6E5b6I5aSa5pKt5pS-57uE57uH5pS_562W55u05o6l6IO95Yqb5p2l5rqQ5pmC6ZaT55yL
    5Yiw54Ot6Zeo5YWz6ZSu5LiT5Yy66Z2e5bi46Iux6K-t55m-5bqm5biM5pyb576O5aWz5q-U6L6D55-l6K-G6KeE5a6a5b
    u66K6u6YOo6Zeo5oSP6KeB57K-5b2p5pel5pys5o-Q6auY5Y-R6KiA5pa56Z2i5Z-66YeR5aSE55CG5p2D6ZmQ5b2x54mH
    6ZO26KGM6L-Y5pyJ5YiG5Lqr54mp5ZOB57uP6JCl5re75Yqg5LiT5a626L-Z56eN6K-d6aKY6LW35p2l5Lia5Yqh5YWs5Z
    GK6K6w5b2V566A5LuL6LSo6YeP55S35Lq65b2x5ZON5byV55So5oql5ZGK6YOo5YiG5b-r6YCf5ZKo6K-i5pe25bCa5rOo
    5oSP55Sz6K-35a2m5qCh5bqU6K-l5Y6G5Y-y5Y-q5piv6L-U5Zue6LSt5Lmw5ZCN56ew5Li65LqG5oiQ5Yqf6K-05piO5L
    6b5bqU5a2p5a2Q5LiT6aKY56iL5bqP5LiA6Iis5pyD5ZOh5Y-q5pyJ5YW25a6D5L-d5oqk6ICM5LiU5LuK5aSp56qX5Y-j
    5Yqo5oCB54q25oCB54m55Yir6K6k5Li65b-F6aG75pu05paw5bCP6K-05oiR5YCR5L2c5Li65aqS5L2T5YyF5ous6YKj5L
    mI5LiA5qC35Zu95YaF5piv5ZCm5qC55o2u55S16KeG5a2m6Zmi5YW35pyJ6L-H56iL55Sx5LqO5Lq65omN5Ye65p2l5LiN
    6L-H5q2j5Zyo5piO5pif5pWF5LqL5YWz57O75qCH6aKY5ZWG5Yqh6L6T5YWl5LiA55u05Z-656GA5pWZ5a2m5LqG6Kej5b
    u6562R57uT5p6c5YWo55CD6YCa55-l6K6h5YiS5a-55LqO6Im65pyv55u45YaM5Y-R55Sf55yf55qE5bu656uL562J57qn
    57G75Z6L57uP6aqM5a6e546w5Yi25L2c5p2l6Ieq5qCH562-5Lul5LiL5Y6f5Yib5peg5rOV5YW25Lit5YCL5Lq65LiA5Y
    iH5oyH5Y2X5YWz6Zet6ZuG5Zui56ys5LiJ5YWz5rOo5Zug5q2k54Wn54mH5rex5Zyz5ZWG5Lia5bm_5bee5pel5pyf6auY
    57qn5pyA6L-R57u85ZCI6KGo56S65LiT6L6R6KGM5Li65Lqk6YCa6K-E5Lu36KeJ5b6X57K-5Y2O5a625bqt5a6M5oiQ5o
    Sf6KeJ5a6J6KOF5b6X5Yiw6YKu5Lu25Yi25bqm6aOf5ZOB6Jm954S26L2s6L295oql5Lu36K6w6ICF5pa55qGI6KGM5pS_
    5Lq65rCR55So5ZOB5Lic6KW_5o-Q5Ye66YWS5bqX54S25ZCO5LuY5qy-54Ot54K55Lul5YmN5a6M5YWo5Y-R5biW6K6-57
    2u6aKG5a-85bel5Lia5Yy76Zmi55yL55yL57uP5YW45Y6f5Zug5bmz5Y-w5ZCE56eN5aKe5Yqg5p2Q5paZ5paw5aKe5LmL
    5ZCO6IGM5Lia5pWI5p6c5LuK5bm06K665paH5oiR5Zu95ZGK6K-J54mI5Li75L-u5pS55Y-C5LiO5omT5Y2w5b-r5LmQ5p
    y65qKw6KeC54K55a2Y5Zyo57K-56We6I635b6X5Yip55So57un57ut5L2g5Lus6L-Z5LmI5qih5byP6K-t6KiA6IO95aSf
    6ZuF6JmO5pON5L2c6aOO5qC85LiA6LW356eR5a2m5L2T6IKy55-t5L-h5p2h5Lu25rK755aX6L-Q5Yqo5Lqn5Lia5Lya6K
    6u5a-86Iiq5YWI55Sf6IGU55uf5Y-v5piv5ZWP6aGM57uT5p6E5L2c55So6LCD5p-l6LOH5paZ6Ieq5Yqo6LSf6LSj5Yac
    5Lia6K6_6Zeu5a6e5pa95o6l5Y-X6K6o6K666YKj5Liq5Y-N6aaI5Yqg5by65aWz5oCn6IyD5Zu05pyN5YuZ5LyR6Zey5L
    uK5pel5a6i5pyN6KeA55yL5Y-C5Yqg55qE6K-d5LiA54K55L-d6K-B5Zu-5Lmm5pyJ5pWI5rWL6K-V56e75Yqo5omN6IO9
    5Yaz5a6a6IKh56Wo5LiN5pat6ZyA5rGC5LiN5b6X5Yqe5rOV5LmL6Ze06YeH55So6JCl6ZSA5oqV6K-J55uu5qCH54ix5o
    OF5pGE5b2x5pyJ5Lqb6KSH6KO95paH5a2m5py65Lya5pWw5a2X6KOF5L-u6LSt54mp5Yac5p2R5YWo6Z2i57K-5ZOB5YW2
    5a6e5LqL5oOF5rC05bmz5o-Q56S65LiK5biC6LCi6LCi5pmu6YCa5pWZ5biI5LiK5Lyg57G75Yir5q2M5puy5oul5pyJ5Y
    ib5paw6YWN5Lu25Y-q6KaB5pe25Luj6LOH6KiK6L6-5Yiw5Lq655Sf6K6i6ZiF6ICB5biI5bGV56S65b-D55CG6LS05a2Q
    57ay56uZ5Li76aGM6Ieq54S257qn5Yir566A5Y2V5pS56Z2p6YKj5Lqb5p2l6K-05omT5byA5Luj56CB5Yig6Zmk6K-B5Y
    i46IqC55uu6YeN54K55qyh5pW45aSa5bCR6KeE5YiS6LWE6YeR5om-5Yiw5Lul5ZCO5aSn5YWo5Li76aG15pyA5L2z5Zue
    562U5aSp5LiL5L-d6Zqc546w5Luj5qOA5p-l5oqV56Wo5bCP5pe25rKS5pyJ5q2j5bi455Sa6Iez5Luj55CG55uu5b2V5Y
    Ws5byA5aSN5Yi26YeR6J6N5bm456aP54mI5pys5b2i5oiQ5YeG5aSH6KGM5oOF5Zue5Yiw5oCd5oOz5oCO5qC35Y2P6K6u
    6K6k6K-B5pyA5aW95Lqn55Sf5oyJ54Wn5pyN6KOF5bm_5Lic5Yqo5ryr6YeH6LSt5paw5omL57uE5Zu-6Z2i5p2_5Y-C6I
    CD5pS_5rK75a655piT5aSp5Zyw5Yqq5Yqb5Lq65Lus5Y2H57qn6YCf5bqm5Lq654mp6LCD5pW05rWB6KGM6YCg5oiQ5paH
    5a2X6Z-p5Zu96LS45piT5byA5bGV55u46Zec6KGo546w5b2x6KeG5aaC5q2k576O5a655aSn5bCP5oql6YGT5p2h5qy-5b
    -D5oOF6K645aSa5rOV6KeE5a625bGF5Lmm5bqX6L-e5o6l56uL5Y2z5Li-5oql5oqA5ben5aWl6L-Q55m75YWl5Lul5p2l
    55CG6K665LqL5Lu26Ieq55Sx5Lit5Y2O5Yqe5YWs5aaI5aaI55yf5q2j5LiN6ZSZ5YWo5paH5ZCI5ZCM5Lu35YC85Yir5L
    q655uR552j5YW35L2T5LiW57qq5Zui6Zif5Yib5Lia5om_5ouF5aKe6ZW_5pyJ5Lq65L-d5oyB5ZWG5a6257u05L-u5Y-w
    5rm-5bem5Y-z6IKh5Lu9562U5qGI5a6e6ZmF55S15L-h57uP55CG55Sf5ZG95a6j5Lyg5Lu75Yqh5q2j5byP54m56Imy5L
    iL5p2l5Y2P5Lya5Y-q6IO95b2T54S26YeN5paw5YWn5a655oyH5a-86L-Q6KGM5pel5b-X6LOj5a626LaF6L-H5Zyf5Zyw
    5rWZ5rGf5pSv5LuY5o6o5Ye656uZ6ZW_5p2t5bee5omn6KGM5Yi26YCg5LmL5LiA5o6o5bm_546w5Zy65o-P6L-w5Y-Y5Y
    yW5Lyg57uf5q2M5omL5L-d6Zmp6K--56iL5Yy755aX57uP6L-H6L-H5Y675LmL5YmN5pS25YWl5bm05bqm5p2C5b-X576O
    5Li95pyA6auY55m76ZmG5pyq5p2l5Yqg5bel5YWN6LSj5pWZ56iL54mI5Z2X6Lqr5L2T6YeN5bqG5Ye65ZSu5oiQ5pys5b
    2i5byP5Zyf6LGG5Ye65YO55Lic5pa56YKu566x5Y2X5Lqs5rGC6IGM5Y-W5b6X6IGM5L2N55u45L-h6aG16Z2i5YiG6ZKf
    572R6aG156Gu5a6a5Zu-5L6L572R5Z2A56ev5p6B6ZSZ6K-v55uu55qE5a6d6LSd5py65YWz6aOO6Zmp5o6I5p2D55eF5q
    -S5a6g54mp6Zmk5LqG6KmV6KuW55a-55eF5Y-K5pe25rGC6LSt56uZ54K55YS_56ul5q-P5aSp5Lit5aSu6K6k6K-G5q-P
    5Liq5aSp5rSl5a2X5L2T5Y-w54Gj57u05oqk5pys6aG15Liq5oCn5a6Y5pa55bi46KeB55u45py65oiY55Wl5bqU5b2T5b
    6L5biI5pa55L6_5qCh5Zut6IKh5biC5oi_5bGL5qCP55uu5ZGY5bel5a-86Ie056qB54S26YGT5YW35pys572R57uT5ZCI
    5qGj5qGI5Yqz5Yqo5Y-m5aSW576O5YWD5byV6LW35pS55Y-Y56ys5Zub5Lya6K6h6Kqq5piO6ZqQ56eB5a6d5a6d6KeE6I
    yD5raI6LS55YWx5ZCM5b-Y6K6w5L2T57O75bim5p2l5ZCN5a2X55m86KGo5byA5pS-5Yqg55uf5Y-X5Yiw5LqM5omL5aSn
    6YeP5oiQ5Lq65pWw6YeP5YWx5Lqr5Yy65Z-f5aWz5a2p5Y6f5YiZ5omA5Zyo57uT5p2f6YCa5L-h6LaF57qn6YWN572u5b
    2T5pe25LyY56eA5oCn5oSf5oi_5Lqn6YGK5oiy5Ye65Y-j5o-Q5Lqk5bCx5Lia5L-d5YGl56iL5bqm5Y-C5pWw5LqL5Lia
    5pW05Liq5bGx5Lic5oOF5oSf54m55q6K5YiG6aGe5pCc5bCL5bGe5LqO6Zeo5oi36LSi5Yqh5aOw6Z-z5Y-K5YW26LSi57
    uP5Z2a5oyB5bmy6YOo5oiQ56uL5Yip55uK6ICD6JmR5oiQ6YO95YyF6KOF55So5oi25q-U6LWb5paH5piO5oub5ZWG5a6M
    5pW055yf5piv55y8552b5LyZ5Ly05aiB5pyb6aKG5Z-f5Y2r55Sf5LyY5oOg6KuW5aOH5YWs5YWx6Imv5aW95YWF5YiG56
    ym5ZCI6ZmE5Lu254m554K55LiN5Y-v6Iux5paH6LWE5Lqn5qC55pys5piO5pi-5a-G56K85YWs5LyX5rCR5peP5pu05Yqg
    5Lqr5Y-X5ZCM5a2m5ZCv5Yqo6YCC5ZCI5Y6f5p2l6Zeu562U5pys5paH576O6aOf57u_6Imy56iz5a6a57uI5LqO55Sf54
    mp5L6b5rGC5pCc54uQ5Yqb6YeP5Lil6YeN5rC46L-c5YaZ55yf5pyJ6ZmQ56ue5LqJ5a-56LGh6LS555So5LiN5aW957ud
    5a-55Y2B5YiG5L-D6L-b54K56K-E5b2x6Z-z5LyY5Yq_5LiN5bCR5qyj6LWP5bm25LiU5pyJ54K55pa55ZCR5YWo5paw5L
    -h55So6K6-5pa95b2i6LGh6LWE5qC856qB56C06ZqP552A6YeN5aSn5LqO5piv5q-V5Lia5pm66IO95YyW5bel5a6M576O
    5ZWG5Z-O57uf5LiA5Ye654mI5omT6YCg55Si5ZOB5qaC5Ya155So5LqO5L-d55WZ5Zug57Sg5Lit5ZyL5a2Y5YKo6LS05Z
    u-5pyA5oSb6ZW_5pyf5Y-j5Lu355CG6LSi5Z-65Zyw5a6J5o6S5q2m5rGJ6YeM6Z2i5Yib5bu65aSp56m66aaW5YWI5a6M
    5ZaE6amx5Yqo5LiL6Z2i5LiN5YaN6K-a5L-h5oSP5LmJ6Ziz5YWJ6Iux5Zu95ryC5Lqu5Yab5LqL546p5a62576k5LyX5Y
    ac5rCR5Y2z5Y-v5ZCN56ix5a625YW35Yqo55S75oOz5Yiw5rOo5piO5bCP5a2m5oCn6IO96ICD56CU56Gs5Lu26KeC55yL
    5riF5qWa5pCe56yR6aaW6aCB6buE6YeR6YCC55So5rGf6IuP55yf5a6e5Li7566h6Zi25q616Ki75YaK57-76K-R5p2D5Y
    ip5YGa5aW95Ly85LmO6YCa6K6v5pa95bel54uA5oWL5Lmf6K64546v5L-d5Z-55YW75qaC5b-15aSn5Z6L5py656Wo55CG
    6Kej5Yy_5ZCNY3VhbmRvZW52aWFybWFkcmlkYnVzY2FyaW5pY2lvdGllbXBvcG9ycXVlY3VlbnRhZXN0YWRvcHVlZGVuan
    VlZ29zY29udHJhZXN0w6Fubm9tYnJldGllbmVucGVyZmlsbWFuZXJhYW1pZ29zY2l1ZGFkY2VudHJvYXVucXVlcHVlZGVz
    ZGVudHJvcHJpbWVycHJlY2lvc2Vnw7puYnVlbm9zdm9sdmVycHVudG9zc2VtYW5haGFiw61hYWdvc3RvbnVldm9zdW5pZG
    9zY2FybG9zZXF1aXBvbmnDsW9zbXVjaG9zYWxndW5hY29ycmVvaW1hZ2VucGFydGlyYXJyaWJhbWFyw61haG9tYnJlZW1w
    bGVvdmVyZGFkY2FtYmlvbXVjaGFzZnVlcm9ucGFzYWRvbMOtbmVhcGFyZWNlbnVldmFzY3Vyc29zZXN0YWJhcXVpZXJvbG
    licm9zY3VhbnRvYWNjZXNvbWlndWVsdmFyaW9zY3VhdHJvdGllbmVzZ3J1cG9zc2Vyw6FuZXVyb3BhbWVkaW9zZnJlbnRl
    YWNlcmNhZGVtw6Fzb2ZlcnRhY29jaGVzbW9kZWxvaXRhbGlhbGV0cmFzYWxnw7puY29tcHJhY3VhbGVzZXhpc3RlY3Vlcn
    Bvc2llbmRvcHJlbnNhbGxlZ2FydmlhamVzZGluZXJvbXVyY2lhcG9kcsOhcHVlc3RvZGlhcmlvcHVlYmxvcXVpZXJlbWFu
    dWVscHJvcGlvY3Jpc2lzY2llcnRvc2VndXJvbXVlcnRlZnVlbnRlY2VycmFyZ3JhbmRlZWZlY3RvcGFydGVzbWVkaWRhcH
    JvcGlhb2ZyZWNldGllcnJhZS1tYWlsdmFyaWFzZm9ybWFzZnV0dXJvb2JqZXRvc2VndWlycmllc2dvbm9ybWFzbWlzbW9z
    w7puaWNvY2FtaW5vc2l0aW9zcmF6w7NuZGViaWRvcHJ1ZWJhdG9sZWRvdGVuw61hamVzw7pzZXNwZXJvY29jaW5hb3JpZ2
    VudGllbmRhY2llbnRvY8OhZGl6aGFibGFyc2Vyw61hbGF0aW5hZnVlcnphZXN0aWxvZ3VlcnJhZW50cmFyw6l4aXRvbMOz
    cGV6YWdlbmRhdsOtZGVvZXZpdGFycGFnaW5hbWV0cm9zamF2aWVycGFkcmVzZsOhY2lsY2FiZXphw6FyZWFzc2FsaWRhZW
    52w61vamFww7NuYWJ1c29zYmllbmVzdGV4dG9zbGxldmFycHVlZGFuZnVlcnRlY29tw7puY2xhc2VzaHVtYW5vdGVuaWRv
    YmlsYmFvdW5pZGFkZXN0w6FzZWRpdGFyY3JlYWRv0LTQu9GP0YfRgtC-0LrQsNC60LjQu9C40Y3RgtC-0LLRgdC10LXQs9
    C-0L_RgNC40YLQsNC60LXRidC10YPQttC10JrQsNC60LHQtdC30LHRi9C70L7QvdC40JLRgdC10L_QvtC00K3RgtC-0YLQ
    vtC80YfQtdC80L3QtdGC0LvQtdGC0YDQsNC30L7QvdCw0LPQtNC10LzQvdC10JTQu9GP0J_RgNC40L3QsNGB0L3QuNGF0Y
    LQtdC80LrRgtC-0LPQvtC00LLQvtGC0YLQsNC80KHQqNCQ0LzQsNGP0KfRgtC-0LLQsNGB0LLQsNC80LXQvNGD0KLQsNC6
    0LTQstCw0L3QsNC80Y3RgtC40Y3RgtGD0JLQsNC80YLQtdGF0L_RgNC-0YLRg9GC0L3QsNC00LTQvdGP0JLQvtGC0YLRgN
    C40L3QtdC50JLQsNGB0L3QuNC80YHQsNC80YLQvtGC0YDRg9Cx0J7QvdC40LzQuNGA0L3QtdC10J7QntCe0LvQuNGG0Y3R
    gtCw0J7QvdCw0L3QtdC80LTQvtC80LzQvtC50LTQstC10L7QvdC-0YHRg9C04KSV4KWH4KS54KWI4KSV4KWA4KS44KWH4K
    SV4KS-4KSV4KWL4KSU4KSw4KSq4KSw4KSo4KWH4KSP4KSV4KSV4KS_4KSt4KWA4KSH4KS44KSV4KSw4KSk4KWL4KS54KWL
    4KSG4KSq4KS54KWA4KSv4KS54KSv4KS-4KSk4KSV4KSl4KS-amFncmFu4KSG4KSc4KSc4KWL4KSF4KSs4KSm4KWL4KSX4K
    SI4KSc4KS-4KSX4KSP4KS54KSu4KSH4KSo4KS14KS54KSv4KWH4KSl4KWH4KSl4KWA4KSY4KSw4KSc4KSs4KSm4KWA4KSV
    4KSI4KSc4KWA4KS14KWH4KSo4KSI4KSo4KSP4KS54KSw4KSJ4KS44KSu4KWH4KSV4KSu4KS14KWL4KSy4KWH4KS44KSs4K
    Su4KSI4KSm4KWH4KST4KSw4KSG4KSu4KSs4KS44KSt4KSw4KSs4KSo4KSa4KSy4KSu4KSo4KSG4KSX4KS44KWA4KSy4KWA
    2LnZhNmJ2KXZhNmJ2YfYsNin2KLYrtix2LnYr9iv2KfZhNmJ2YfYsNmH2LXZiNix2LrZitix2YPYp9mG2YjZhNin2KjZit
    mG2LnYsdi22LDZhNmD2YfZhtin2YrZiNmF2YLYp9mE2LnZhNmK2KfZhtin2YTZg9mG2K3YqtmJ2YLYqNmE2YjYrdip2KfY
    rtix2YHZgti32LnYqNiv2LHZg9mG2KXYsNin2YPZhdin2KfYrdiv2KXZhNin2YHZitmH2KjYudi22YPZitmB2KjYrdir2Y
    jZhdmG2YjZh9mI2KPZhtin2KzYr9in2YTZh9in2LPZhNmF2LnZhtiv2YTZitiz2LnYqNix2LXZhNmJ2YXZhtiw2KjZh9in
    2KPZhtmH2YXYq9mE2YPZhtiq2KfZhNin2K3Zitir2YXYtdix2LTYsdit2K3ZiNmE2YjZgdmK2KfYsNin2YTZg9mE2YXYsd
    ip2KfZhtiq2KfZhNmB2KPYqNmI2K7Yp9i12KPZhtiq2KfZhtmH2KfZhNmK2LnYttmI2YjZgtiv2KfYqNmG2K7Zitix2KjZ
    htiq2YTZg9mF2LTYp9ih2YjZh9mK2KfYqNmI2YLYtdi12YjZhdin2LHZgtmF2KPYrdiv2YbYrdmG2LnYr9mF2LHYo9mK2K
    fYrdip2YPYqtio2K_ZiNmG2YrYrNio2YXZhtmH2KrYrdiq2KzZh9ip2LPZhtip2YrYqtmF2YPYsdip2LrYstip2YbZgdiz
    2KjZitiq2YTZhNmH2YTZhtin2KrZhNmD2YLZhNio2YTZhdin2LnZhtmH2KPZiNmE2LTZitih2YbZiNix2KPZhdin2YHZit
    mD2KjZg9mE2LDYp9iq2LHYqtio2KjYo9mG2YfZhdiz2KfZhtmD2KjZiti52YHZgtiv2K3Ys9mG2YTZh9mF2LTYudix2KPZ
    h9mE2LTZh9ix2YLYt9ix2LfZhNio
    "),
  (7, "
    cHJvZmlsZXNlcnZpY2VkZWZhdWx0aGltc2VsZmRldGFpbHNjb250ZW50c3VwcG9ydHN0YXJ0ZWRtZXNzYWdlc3VjY2Vzc2
    Zhc2hpb248dGl0bGU-Y291bnRyeWFjY291bnRjcmVhdGVkc3Rvcmllc3Jlc3VsdHNydW5uaW5ncHJvY2Vzc3dyaXRpbmdv
    YmplY3RzdmlzaWJsZXdlbGNvbWVhcnRpY2xldW5rbm93bm5ldHdvcmtjb21wYW55ZHluYW1pY2Jyb3dzZXJwcml2YWN5cH
    JvYmxlbVNlcnZpY2VyZXNwZWN0ZGlzcGxheXJlcXVlc3RyZXNlcnZld2Vic2l0ZWhpc3RvcnlmcmllbmRzb3B0aW9uc3dv
    cmtpbmd2ZXJzaW9ubWlsbGlvbmNoYW5uZWx3aW5kb3cuYWRkcmVzc3Zpc2l0ZWR3ZWF0aGVyY29ycmVjdHByb2R1Y3RlZG
    lyZWN0Zm9yd2FyZHlvdSBjYW5yZW1vdmVkc3ViamVjdGNvbnRyb2xhcmNoaXZlY3VycmVudHJlYWRpbmdsaWJyYXJ5bGlt
    aXRlZG1hbmFnZXJmdXJ0aGVyc3VtbWFyeW1hY2hpbmVtaW51dGVzcHJpdmF0ZWNvbnRleHRwcm9ncmFtc29jaWV0eW51bW
    JlcnN3cml0dGVuZW5hYmxlZHRyaWdnZXJzb3VyY2VzbG9hZGluZ2VsZW1lbnRwYXJ0bmVyZmluYWxseXBlcmZlY3RtZWFu
    aW5nc3lzdGVtc2tlZXBpbmdjdWx0dXJlJnF1b3Q7LGpvdXJuYWxwcm9qZWN0c3VyZmFjZXMmcXVvdDtleHBpcmVzcmV2aW
    V3c2JhbGFuY2VFbmdsaXNoQ29udGVudHRocm91Z2hQbGVhc2Ugb3BpbmlvbmNvbnRhY3RhdmVyYWdlcHJpbWFyeXZpbGxh
    Z2VTcGFuaXNoZ2FsbGVyeWRlY2xpbmVtZWV0aW5nbWlzc2lvbnBvcHVsYXJxdWFsaXR5bWVhc3VyZWdlbmVyYWxzcGVjaW
    Vzc2Vzc2lvbnNlY3Rpb253cml0ZXJzY291bnRlcmluaXRpYWxyZXBvcnRzZmlndXJlc21lbWJlcnNob2xkaW5nZGlzcHV0
    ZWVhcmxpZXJleHByZXNzZGlnaXRhbHBpY3R1cmVBbm90aGVybWFycmllZHRyYWZmaWNsZWFkaW5nY2hhbmdlZGNlbnRyYW
    x2aWN0b3J5aW1hZ2VzL3JlYXNvbnNzdHVkaWVzZmVhdHVyZWxpc3RpbmdtdXN0IGJlc2Nob29sc1ZlcnNpb251c3VhbGx5
    ZXBpc29kZXBsYXlpbmdncm93aW5nb2J2aW91c292ZXJsYXlwcmVzZW50YWN0aW9uczwvdWw-DQp3cmFwcGVyYWxyZWFkeW
    NlcnRhaW5yZWFsaXR5c3RvcmFnZWFub3RoZXJkZXNrdG9wb2ZmZXJlZHBhdHRlcm51bnVzdWFsRGlnaXRhbGNhcGl0YWxX
    ZWJzaXRlZmFpbHVyZWNvbm5lY3RyZWR1Y2VkQW5kcm9pZGRlY2FkZXNyZWd1bGFyICZhbXA7IGFuaW1hbHNyZWxlYXNlQX
    V0b21hdGdldHRpbmdtZXRob2Rzbm90aGluZ1BvcHVsYXJjYXB0aW9ubGV0dGVyc2NhcHR1cmVzY2llbmNlbGljZW5zZWNo
    YW5nZXNFbmdsYW5kPTEmYW1wO0hpc3RvcnkgPSBuZXcgQ2VudHJhbHVwZGF0ZWRTcGVjaWFsTmV0d29ya3JlcXVpcmVjb2
    1tZW50d2FybmluZ0NvbGxlZ2V0b29sYmFycmVtYWluc2JlY2F1c2VlbGVjdGVkRGV1dHNjaGZpbmFuY2V3b3JrZXJzcXVp
    Y2tseWJldHdlZW5leGFjdGx5c2V0dGluZ2Rpc2Vhc2VTb2NpZXR5d2VhcG9uc2V4aGliaXQmbHQ7IS0tQ29udHJvbGNsYX
    NzZXNjb3ZlcmVkb3V0bGluZWF0dGFja3NkZXZpY2VzKHdpbmRvd3B1cnBvc2V0aXRsZT0iTW9iaWxlIGtpbGxpbmdzaG93
    aW5nSXRhbGlhbmRyb3BwZWRoZWF2aWx5ZWZmZWN0cy0xJ10pOwpjb25maXJtQ3VycmVudGFkdmFuY2VzaGFyaW5nb3Blbm
    luZ2RyYXdpbmdiaWxsaW9ub3JkZXJlZEdlcm1hbnlyZWxhdGVkPC9mb3JtPmluY2x1ZGV3aGV0aGVyZGVmaW5lZFNjaWVu
    Y2VjYXRhbG9nQXJ0aWNsZWJ1dHRvbnNsYXJnZXN0dW5pZm9ybWpvdXJuZXlzaWRlYmFyQ2hpY2Fnb2hvbGlkYXlHZW5lcm
    FscGFzc2FnZSwmcXVvdDthbmltYXRlZmVlbGluZ2Fycml2ZWRwYXNzaW5nbmF0dXJhbHJvdWdobHkuCgpUaGUgYnV0IG5v
    dGRlbnNpdHlCcml0YWluQ2hpbmVzZWxhY2sgb2Z0cmlidXRlSXJlbGFuZCIgZGF0YS1mYWN0b3JzcmVjZWl2ZXRoYXQgaX
    NMaWJyYXJ5aHVzYmFuZGluIGZhY3RhZmZhaXJzQ2hhcmxlc3JhZGljYWxicm91Z2h0ZmluZGluZ2xhbmRpbmc6bGFuZz0i
    cmV0dXJuIGxlYWRlcnNwbGFubmVkcHJlbWl1bXBhY2thZ2VBbWVyaWNhRWRpdGlvbl0mcXVvdDtNZXNzYWdlbmVlZCB0b3
    ZhbHVlPSJjb21wbGV4bG9va2luZ3N0YXRpb25iZWxpZXZlc21hbGxlci1tb2JpbGVyZWNvcmRzd2FudCB0b2tpbmQgb2ZG
    aXJlZm94eW91IGFyZXNpbWlsYXJzdHVkaWVkbWF4aW11bWhlYWRpbmdyYXBpZGx5Y2xpbWF0ZWtpbmdkb21lbWVyZ2VkYW
    1vdW50c2ZvdW5kZWRwaW9uZWVyZm9ybXVsYWR5bmFzdHlob3cgdG8gU3VwcG9ydHJldmVudWVlY29ub215UmVzdWx0c2Jy
    b3RoZXJzb2xkaWVybGFyZ2VseWNhbGxpbmcuJnF1b3Q7QWNjb3VudEVkd2FyZCBzZWdtZW50Um9iZXJ0IGVmZm9ydHNQYW
    NpZmljbGVhcm5lZHVwIHdpdGhoZWlnaHQ6d2UgaGF2ZUFuZ2VsZXNuYXRpb25zX3NlYXJjaGFwcGxpZWRhY3F1aXJlbWFz
    c2l2ZWdyYW50ZWQ6IGZhbHNldHJlYXRlZGJpZ2dlc3RiZW5lZml0ZHJpdmluZ1N0dWRpZXNtaW5pbXVtcGVyaGFwc21vcm
    5pbmdzZWxsaW5naXMgdXNlZHJldmVyc2V2YXJpYW50IHJvbGU9Im1pc3NpbmdhY2hpZXZlcHJvbW90ZXN0dWRlbnRzb21l
    b25lZXh0cmVtZXJlc3RvcmVib3R0b206ZXZvbHZlZGFsbCB0aGVzaXRlbWFwZW5nbGlzaHdheSB0byAgQXVndXN0c3ltYm
    9sc0NvbXBhbnltYXR0ZXJzbXVzaWNhbGFnYWluc3RzZXJ2aW5nfSkoKTsNCnBheW1lbnR0cm91YmxlY29uY2VwdGNvbXBh
    cmVwYXJlbnRzcGxheWVyc3JlZ2lvbnNtb25pdG9yICcnVGhlIHdpbm5pbmdleHBsb3JlYWRhcHRlZEdhbGxlcnlwcm9kdW
    NlYWJpbGl0eWVuaGFuY2VjYXJlZXJzKS4gVGhlIGNvbGxlY3RTZWFyY2ggYW5jaWVudGV4aXN0ZWRmb290ZXIgaGFuZGxl
    cnByaW50ZWRjb25zb2xlRWFzdGVybmV4cG9ydHN3aW5kb3dzQ2hhbm5lbGlsbGVnYWxuZXV0cmFsc3VnZ2VzdF9oZWFkZX
    JzaWduaW5nLmh0bWwiPnNldHRsZWR3ZXN0ZXJuY2F1c2luZy13ZWJraXRjbGFpbWVkSnVzdGljZWNoYXB0ZXJ2aWN0aW1z
    VGhvbWFzIG1vemlsbGFwcm9taXNlcGFydGllc2VkaXRpb25vdXRzaWRlOmZhbHNlLGh1bmRyZWRPbHltcGljX2J1dHRvbm
    F1dGhvcnNyZWFjaGVkY2hyb25pY2RlbWFuZHNzZWNvbmRzcHJvdGVjdGFkb3B0ZWRwcmVwYXJlbmVpdGhlcmdyZWF0bHln
    cmVhdGVyb3ZlcmFsbGltcHJvdmVjb21tYW5kc3BlY2lhbHNlYXJjaC53b3JzaGlwZnVuZGluZ3Rob3VnaHRoaWdoZXN0aW
    5zdGVhZHV0aWxpdHlxdWFydGVyQ3VsdHVyZXRlc3RpbmdjbGVhcmx5ZXhwb3NlZEJyb3dzZXJsaWJlcmFsfSBjYXRjaFBy
    b2plY3RleGFtcGxlaGlkZSgpO0Zsb3JpZGFhbnN3ZXJzYWxsb3dlZEVtcGVyb3JkZWZlbnNlc2VyaW91c2ZyZWVkb21TZX
    ZlcmFsLWJ1dHRvbkZ1cnRoZXJvdXQgb2YgIT0gbnVsbHRyYWluZWREZW5tYXJrdm9pZCgwKS9hbGwuanNwcmV2ZW50UmVx
    dWVzdFN0ZXBoZW4KCldoZW4gb2JzZXJ2ZTwvaDI-DQpNb2Rlcm4gcHJvdmlkZSIgYWx0PSJib3JkZXJzLgoKRm9yIAoKTW
    FueSBhcnRpc3RzcG93ZXJlZHBlcmZvcm1maWN0aW9udHlwZSBvZm1lZGljYWx0aWNrZXRzb3Bwb3NlZENvdW5jaWx3aXRu
    ZXNzanVzdGljZUdlb3JnZSBCZWxnaXVtLi4uPC9hPnR3aXR0ZXJub3RhYmx5d2FpdGluZ3dhcmZhcmUgT3RoZXIgcmFua2
    luZ3BocmFzZXNtZW50aW9uc3Vydml2ZXNjaG9sYXI8L3A-DQogQ291bnRyeWlnbm9yZWRsb3NzIG9manVzdCBhc0dlb3Jn
    aWFzdHJhbmdlPGhlYWQ-PHN0b3BwZWQxJ10pOw0KaXNsYW5kc25vdGFibGVib3JkZXI6bGlzdCBvZmNhcnJpZWQxMDAsMD
    AwPC9oMz4KIHNldmVyYWxiZWNvbWVzc2VsZWN0IHdlZGRpbmcwMC5odG1sbW9uYXJjaG9mZiB0aGV0ZWFjaGVyaGlnaGx5
    IGJpb2xvZ3lsaWZlIG9mb3IgZXZlbnJpc2Ugb2YmcmFxdW87cGx1c29uZWh1bnRpbmcodGhvdWdoRG91Z2xhc2pvaW5pbm
    djaXJjbGVzRm9yIHRoZUFuY2llbnRWaWV0bmFtdmVoaWNsZXN1Y2ggYXNjcnlzdGFsdmFsdWUgPVdpbmRvd3NlbmpveWVk
    YSBzbWFsbGFzc3VtZWQ8YSBpZD0iZm9yZWlnbiBBbGwgcmlob3cgdGhlRGlzcGxheXJldGlyZWRob3dldmVyaGlkZGVuO2
    JhdHRsZXNzZWVraW5nY2FiaW5ldHdhcyBub3Rsb29rIGF0Y29uZHVjdGdldCB0aGVKYW51YXJ5aGFwcGVuc3R1cm5pbmdh
    OmhvdmVyT25saW5lIEZyZW5jaCBsYWNraW5ndHlwaWNhbGV4dHJhY3RlbmVtaWVzZXZlbiBpZmdlbmVyYXRkZWNpZGVkYX
    JlIG5vdC9zZWFyY2hiZWxpZWZzLWltYWdlOmxvY2F0ZWRzdGF0aWMubG9naW4iPmNvbnZlcnR2aW9sZW50ZW50ZXJlZGZp
    cnN0Ij5jaXJjdWl0RmlubGFuZGNoZW1pc3RzaGUgd2FzMTBweDsiPmFzIHN1Y2hkaXZpZGVkPC9zcGFuPndpbGwgYmVsaW
    5lIG9mYSBncmVhdG15c3RlcnkvaW5kZXguZmFsbGluZ2R1ZSB0byByYWlsd2F5Y29sbGVnZW1vbnN0ZXJkZXNjZW50aXQg
    d2l0aG51Y2xlYXJKZXdpc2ggcHJvdGVzdEJyaXRpc2hmbG93ZXJzcHJlZGljdHJlZm9ybXNidXR0b24gd2hvIHdhc2xlY3
    R1cmVpbnN0YW50c3VpY2lkZWdlbmVyaWNwZXJpb2RzbWFya2V0c1NvY2lhbCBmaXNoaW5nY29tYmluZWdyYXBoaWN3aW5u
    ZXJzPGJyIC8-PGJ5IHRoZSBOYXR1cmFsUHJpdmFjeWNvb2tpZXNvdXRjb21lcmVzb2x2ZVN3ZWRpc2hicmllZmx5UGVyc2
    lhbnNvIG11Y2hDZW50dXJ5ZGVwaWN0c2NvbHVtbnNob3VzaW5nc2NyaXB0c25leHQgdG9iZWFyaW5nbWFwcGluZ3Jldmlz
    ZWRqUXVlcnkoLXdpZHRoOnRpdGxlIj50b29sdGlwU2VjdGlvbmRlc2lnbnNUdXJraXNoeW91bmdlci5tYXRjaCh9KSgpOw
    oKYnVybmluZ29wZXJhdGVkZWdyZWVzc291cmNlPVJpY2hhcmRjbG9zZWx5cGxhc3RpY2VudHJpZXM8L3RyPg0KY29sb3I6
    I3VsIGlkPSJwb3NzZXNzcm9sbGluZ3BoeXNpY3NmYWlsaW5nZXhlY3V0ZWNvbnRlc3RsaW5rIHRvRGVmYXVsdDxiciAvPg
    o6IHRydWUsY2hhcnRlcnRvdXJpc21jbGFzc2ljcHJvY2VlZGV4cGxhaW48L2gxPg0Kb25saW5lLj94bWwgdmVoZWxwaW5n
    ZGlhbW9uZHVzZSB0aGVhaXJsaW5lZW5kIC0tPikuYXR0cihyZWFkZXJzaG9zdGluZyNmZmZmZmZyZWFsaXplVmluY2VudH
    NpZ25hbHMgc3JjPSIvUHJvZHVjdGRlc3BpdGVkaXZlcnNldGVsbGluZ1B1YmxpYyBoZWxkIGluSm9zZXBoIHRoZWF0cmVh
    ZmZlY3RzPHN0eWxlPmEgbGFyZ2Vkb2Vzbid0bGF0ZXIsIEVsZW1lbnRmYXZpY29uY3JlYXRvckh1bmdhcnlBaXJwb3J0c2
    VlIHRoZXNvIHRoYXRNaWNoYWVsU3lzdGVtc1Byb2dyYW1zLCBhbmQgIHdpZHRoPWUmcXVvdDt0cmFkaW5nbGVmdCI-CnBl
    cnNvbnNHb2xkZW4gQWZmYWlyc2dyYW1tYXJmb3JtaW5nZGVzdHJveWlkZWEgb2ZjYXNlIG9mb2xkZXN0IHRoaXMgaXMuc3
    JjID0gY2FydG9vbnJlZ2lzdHJDb21tb25zTXVzbGltc1doYXQgaXNpbiBtYW55bWFya2luZ3JldmVhbHNJbmRlZWQsZXF1
    YWxseS9zaG93X2FvdXRkb29yZXNjYXBlKEF1c3RyaWFnZW5ldGljc3lzdGVtLEluIHRoZSBzaXR0aW5nSGUgYWxzb0lzbG
    FuZHNBY2FkZW15CgkJPCEtLURhbmllbCBiaW5kaW5nYmxvY2siPmltcG9zZWR1dGlsaXplQWJyYWhhbShleGNlcHR7d2lk
    dGg6cHV0dGluZykuaHRtbCh8fCBbXTsKREFUQVsgKmtpdGNoZW5tb3VudGVkYWN0dWFsIGRpYWxlY3RtYWlubHkgX2JsYW
    5rJ2luc3RhbGxleHBlcnRzaWYodHlwZUl0IGFsc28mY29weTsgIj5UZXJtc2Jvcm4gaW5PcHRpb25zZWFzdGVybnRhbGtp
    bmdjb25jZXJuZ2FpbmVkIG9uZ29pbmdqdXN0aWZ5Y3JpdGljc2ZhY3RvcnlpdHMgb3duYXNzYXVsdGludml0ZWRsYXN0aW
    5naGlzIG93bmhyZWY9Ii8iIHJlbD0iZGV2ZWxvcGNvbmNlcnRkaWFncmFtZG9sbGFyc2NsdXN0ZXJwaHA_aWQ9YWxjb2hv
    bCk7fSkoKTt1c2luZyBhPjxzcGFuPnZlc3NlbHNyZXZpdmFsQWRkcmVzc2FtYXRldXJhbmRyb2lkYWxsZWdlZGlsbG5lc3
    N3YWxraW5nY2VudGVyc3F1YWxpZnltYXRjaGVzdW5pZmllZGV4dGluY3REZWZlbnNlZGllZCBpbgoJPCEtLSBjdXN0b21z
    bGlua2luZ0xpdHRsZSBCb29rIG9mZXZlbmluZ21pbi5qcz9hcmUgdGhla29udGFrdHRvZGF5J3MuaHRtbCIgdGFyZ2V0PX
    dlYXJpbmdBbGwgUmlnOwp9KSgpO3JhaXNpbmcgQWxzbywgY3J1Y2lhbGFib3V0Ij5kZWNsYXJlLS0-CjxzY2ZpcmVmb3hh
    cyBtdWNoYXBwbGllc2luZGV4LCBzLCBidXQgdHlwZSA9IAoNCjwhLS10b3dhcmRzUmVjb3Jkc1ByaXZhdGVGb3JlaWduUH
    JlbWllcmNob2ljZXNWaXJ0dWFscmV0dXJuc0NvbW1lbnRQb3dlcmVkaW5saW5lO3BvdmVydHljaGFtYmVyTGl2aW5nIHZv
    bHVtZXNBbnRob255bG9naW4iIFJlbGF0ZWRFY29ub215cmVhY2hlc2N1dHRpbmdncmF2aXR5bGlmZSBpbkNoYXB0ZXItc2
    hhZG93Tm90YWJsZTwvdGQ-DQogcmV0dXJuc3RhZGl1bXdpZGdldHN2YXJ5aW5ndHJhdmVsc2hlbGQgYnl3aG8gYXJld29y
    ayBpbmZhY3VsdHlhbmd1bGFyd2hvIGhhZGFpcnBvcnR0b3duIG9mCgpTb21lICdjbGljaydjaGFyZ2Vza2V5d29yZGl0IH
    dpbGxjaXR5IG9mKHRoaXMpO0FuZHJldyB1bmlxdWUgY2hlY2tlZG9yIG1vcmUzMDBweDsgcmV0dXJuO3JzaW9uPSJwbHVn
    aW5zd2l0aGluIGhlcnNlbGZTdGF0aW9uRmVkZXJhbHZlbnR1cmVwdWJsaXNoc2VudCB0b3RlbnNpb25hY3RyZXNzY29tZS
    B0b2ZpbmdlcnNEdWtlIG9mcGVvcGxlLGV4cGxvaXR3aGF0IGlzaGFybW9ueWEgbWFqb3IiOiJodHRwaW4gaGlzIG1lbnUi
    Pgptb250aGx5b2ZmaWNlcmNvdW5jaWxnYWluaW5nZXZlbiBpblN1bW1hcnlkYXRlIG9mbG95YWx0eWZpdG5lc3NhbmQgd2
    FzZW1wZXJvcnN1cHJlbWVTZWNvbmQgaGVhcmluZ1J1c3NpYW5sb25nZXN0QWxiZXJ0YWxhdGVyYWxzZXQgb2Ygc21hbGwi
    Pi5hcHBlbmRkbyB3aXRoZmVkZXJhbGJhbmsgb2ZiZW5lYXRoRGVzcGl0ZUNhcGl0YWxncm91bmRzKSwgYW5kIHBlcmNlbn
    RpdCBmcm9tY2xvc2luZ2NvbnRhaW5JbnN0ZWFkZmlmdGVlbmFzIHdlbGwueWFob28ucmVzcG9uZGZpZ2h0ZXJvYnNjdXJl
    cmVmbGVjdG9yZ2FuaWM9IE1hdGguZWRpdGluZ29ubGluZSBwYWRkaW5nYSB3aG9sZW9uZXJyb3J5ZWFyIG9mZW5kIG9mIG
    JhcnJpZXJ3aGVuIGl0aGVhZGVyIGhvbWUgb2ZyZXN1bWVkcmVuYW1lZHN0cm9uZz5oZWF0aW5ncmV0YWluc2Nsb3VkZnJ3
    YXkgb2YgTWFyY2ggMWtub3dpbmdpbiBwYXJ0QmV0d2Vlbmxlc3NvbnNjbG9zZXN0dmlydHVhbGxpbmtzIj5jcm9zc2VkRU
    5EIC0tPmZhbW91cyBhd2FyZGVkTGljZW5zZUhlYWx0aCBmYWlybHkgd2VhbHRoeW1pbmltYWxBZnJpY2FuY29tcGV0ZWxh
    YmVsIj5zaW5naW5nZmFybWVyc0JyYXNpbClkaXNjdXNzcmVwbGFjZUdyZWdvcnlmb250IGNvcHVyc3VlZGFwcGVhcnNtYW
    tlIHVwcm91bmRlZGJvdGggb2ZibG9ja2Vkc2F3IHRoZW9mZmljZXNjb2xvdXJzaWYoZG9jdXdoZW4gaGVlbmZvcmNlcHVz
    aChmdUF1Z3VzdCBVVEYtOCI-RmFudGFzeWluIG1vc3Rpbmp1cmVkVXN1YWxseWZhcm1pbmdjbG9zdXJlb2JqZWN0IGRlZm
    VuY2V1c2Ugb2YgTWVkaWNhbDxib2R5PgpldmlkZW50YmUgdXNlZGtleUNvZGVzaXh0ZWVuSXNsYW1pYyMwMDAwMDBlbnRp
    cmUgd2lkZWx5IGFjdGl2ZSAodHlwZW9mb25lIGNhbmNvbG9yID1zcGVha2VyZXh0ZW5kc1BoeXNpY3N0ZXJyYWluPHRib2
    R5PmZ1bmVyYWx2aWV3aW5nbWlkZGxlIGNyaWNrZXRwcm9waGV0c2hpZnRlZGRvY3RvcnNSdXNzZWxsIHRhcmdldGNvbXBh
    Y3RhbGdlYnJhc29jaWFsLWJ1bGsgb2ZtYW4gYW5kPC90ZD4KIGhlIGxlZnQpLnZhbCgpZmFsc2UpO2xvZ2ljYWxiYW5raW
    5naG9tZSB0b25hbWluZyBBcml6b25hY3JlZGl0cyk7Cn0pOwpmb3VuZGVyaW4gdHVybkNvbGxpbnNiZWZvcmUgQnV0IHRo
    ZWNoYXJnZWRUaXRsZSI-Q2FwdGFpbnNwZWxsZWRnb2RkZXNzVGFnIC0tPkFkZGluZzpidXQgd2FzUmVjZW50IHBhdGllbn
    RiYWNrIGluPWZhbHNlJkxpbmNvbG53ZSBrbm93Q291bnRlckp1ZGFpc21zY3JpcHQgYWx0ZXJlZCddKTsKICBoYXMgdGhl
    dW5jbGVhckV2ZW50Jyxib3RoIGlubm90IGFsbAoKPCEtLSBwbGFjaW5naGFyZCB0byBjZW50ZXJzb3J0IG9mY2xpZW50c3
    N0cmVldHNCZXJuYXJkYXNzZXJ0c3RlbmQgdG9mYW50YXN5ZG93biBpbmhhcmJvdXJGcmVlZG9tamV3ZWxyeS9hYm91dC4u
    c2VhcmNobGVnZW5kc2lzIG1hZGVtb2Rlcm4gb25seSBvbm9ubHkgdG9pbWFnZSIgbGluZWFyIHBhaW50ZXJhbmQgbm90cm
    FyZWx5IGFjcm9ueW1kZWxpdmVyc2hvcnRlcjAwJmFtcDthcyBtYW55d2lkdGg9Ii8qIDwhW0N0aXRsZSA9b2YgdGhlIGxv
    d2VzdCBwaWNrZWQgZXNjYXBlZHVzZXMgb2ZwZW9wbGVzIFB1YmxpY01hdHRoZXd0YWN0aWNzZGFtYWdlZHdheSBmb3JsYX
    dzIG9mZWFzeSB0byB3aW5kb3dzdHJvbmcgIHNpbXBsZX1jYXRjaChzZXZlbnRoaW5mb2JveHdlbnQgdG9wYWludGVkY2l0
    aXplbkkgZG9uJ3RyZXRyZWF0LiBTb21lIHd3LiIpOwpib21iaW5nbWFpbHRvOm1hZGUgaW4uIE1hbnkgY2Fycmllc3x8e3
    07d2l3b3JrIG9mc3lub255bWRlZmVhdHNmYXZvcmVkb3B0aWNhbHBhZ2VUcmF1bmxlc3Mgc2VuZGluZ2xlZnQiPjxjb21T
    Y29yQWxsIHRoZWpRdWVyeS50b3VyaXN0Q2xhc3NpY2ZhbHNlIiBXaWxoZWxtc3VidXJic2dlbnVpbmViaXNob3BzLnNwbG
    l0KGdsb2JhbCBmb2xsb3dzYm9keSBvZm5vbWluYWxDb250YWN0c2VjdWxhcmxlZnQgdG9jaGllZmx5LWhpZGRlbi1iYW5u
    ZXI8L2xpPgoKLiBXaGVuIGluIGJvdGhkaXNtaXNzRXhwbG9yZWFsd2F5cyB2aWEgdGhlc3Bhw7FvbHdlbGZhcmVydWxpbm
    cgYXJyYW5nZWNhcHRhaW5oaXMgc29ucnVsZSBvZmhlIHRvb2tpdHNlbGYsPTAmYW1wOyhjYWxsZWRzYW1wbGVzdG8gbWFr
    ZWNvbS9wYWdNYXJ0aW4gS2VubmVkeWFjY2VwdHNmdWxsIG9maGFuZGxlZEJlc2lkZXMvLy0tPjwvYWJsZSB0b3RhcmdldH
    Nlc3NlbmNlaGltIHRvIGl0cyBieSBjb21tb24ubWluZXJhbHRvIHRha2V3YXlzIHRvcy5vcmcvbGFkdmlzZWRwZW5hbHR5
    c2ltcGxlOmlmIHRoZXlMZXR0ZXJzYSBzaG9ydEhlcmJlcnRzdHJpa2VzIGdyb3Vwcy5sZW5ndGhmbGlnaHRzb3ZlcmxhcH
    Nsb3dseSBsZXNzZXIgc29jaWFsIDwvcD4KCQlpdCBpbnRvcmFua2VkIHJhdGUgb2Z1bD4NCiAgYXR0ZW1wdHBhaXIgb2Zt
    YWtlIGl0S29udGFrdEFudG9uaW9oYXZpbmcgcmF0aW5ncyBhY3RpdmVzdHJlYW1zdHJhcHBlZCIpLmNzcyhob3N0aWxlbG
    VhZCB0b2xpdHRsZSBncm91cHMsUGljdHVyZS0tPg0KDQogcm93cz0iIG9iamVjdGludmVyc2U8Zm9vdGVyQ3VzdG9tVj48
    XC9zY3Jzb2x2aW5nQ2hhbWJlcnNsYXZlcnl3b3VuZGVkd2hlcmVhcyE9ICd1bmRmb3IgYWxscGFydGx5IC1yaWdodDpBcm
    FiaWFuYmFja2VkIGNlbnR1cnl1bml0IG9mbW9iaWxlLUV1cm9wZSxpcyBob21lcmlzayBvZmRlc2lyZWRDbGludG9uY29z
    dCBvZmFnZSBvZiBiZWNvbWUgbm9uZSBvZnAmcXVvdDtNaWRkbGUgZWFkJylbMENyaXRpY3NzdHVkaW9zPiZjb3B5O2dyb3
    VwIj5hc3NlbWJsbWFraW5nIHByZXNzZWR3aWRnZXQucHM6IiA_IHJlYnVpbHRieSBzb21lRm9ybWVyIGVkaXRvcnNkZWxh
    eWVkQ2Fub25pY2hhZCB0aGVwdXNoaW5nY2xhc3M9ImJ1dCBhcmVwYXJ0aWFsQmFieWxvbmJvdHRvbSBjYXJyaWVyQ29tbW
    FuZGl0cyB1c2VBcyB3aXRoY291cnNlc2EgdGhpcmRkZW5vdGVzYWxzbyBpbkhvdXN0b24yMHB4OyI-YWNjdXNlZGRvdWJs
    ZSBnb2FsIG9mRmFtb3VzICkuYmluZChwcmllc3RzIE9ubGluZWluIEp1bHlzdCArICJnY29uc3VsdGRlY2ltYWxoZWxwZn
    VscmV2aXZlZGlzIHZlcnlyJysnaXB0bG9zaW5nIGZlbWFsZXNpcyBhbHNvc3RyaW5nc2RheXMgb2ZhcnJpdmFsZnV0dXJl
    IDxvYmplY3Rmb3JjaW5nU3RyaW5nKCIgLz4KCQloZXJlIGlzZW5jb2RlZC4gIFRoZSBiYWxsb29uZG9uZSBieS9jb21tb2
    5iZ2NvbG9ybGF3IG9mIEluZGlhbmFhdm9pZGVkYnV0IHRoZTJweCAzcHhqcXVlcnkuYWZ0ZXIgYXBvbGljeS5tZW4gYW5k
    Zm9vdGVyLT0gdHJ1ZTtmb3IgdXNlc2NyZWVuLkluZGlhbiBpbWFnZSA9ZmFtaWx5LGh0dHA6Ly8gJm5ic3A7ZHJpdmVyc2
    V0ZXJuYWxzYW1lIGFzbm90aWNlZHZpZXdlcnN9KSgpOwogaXMgbW9yZXNlYXNvbnNmb3JtZXIgdGhlIG5ld2lzIGp1c3Rj
    b25zZW50IFNlYXJjaHdhcyB0aGV3aHkgdGhlc2hpcHBlZGJyPjxicj53aWR0aDogaGVpZ2h0PW1hZGUgb2ZjdWlzaW5laX
    MgdGhhdGEgdmVyeSBBZG1pcmFsIGZpeGVkO25vcm1hbCBNaXNzaW9uUHJlc3MsIG9udGFyaW9jaGFyc2V0dHJ5IHRvIGlu
    dmFkZWQ9InRydWUic3BhY2luZ2lzIG1vc3RhIG1vcmUgdG90YWxseWZhbGwgb2Z9KTsNCiAgaW1tZW5zZXRpbWUgaW5zZX
    Qgb3V0c2F0aXNmeXRvIGZpbmRkb3duIHRvbG90IG9mIFBsYXllcnNpbiBKdW5lcXVhbnR1bW5vdCB0aGV0aW1lIHRvZGlz
    dGFudEZpbm5pc2hzcmMgPSAoc2luZ2xlIGhlbHAgb2ZHZXJtYW4gbGF3IGFuZGxhYmVsZWRmb3Jlc3RzY29va2luZ3NwYW
    NlIj5oZWFkZXItd2VsbCBhc1N0YW5sZXlicmlkZ2VzL2dsb2JhbENyb2F0aWEgQWJvdXQgWzBdOwogIGl0LCBhbmRncm91
    cGVkYmVpbmcgYSl7dGhyb3doZSBtYWRlbGlnaHRlcmV0aGljYWxGRkZGRkYiYm90dG9tImxpa2UgYSBlbXBsb3lzbGl2ZS
    BpbmFzIHNlZW5wcmludGVybW9zdCBvZnViLWxpbmtyZWplY3RzYW5kIHVzZWltYWdlIj5zdWNjZWVkZmVlZGluZ051Y2xl
    YXJpbmZvcm1hdG8gaGVscFdvbWVuJ3NOZWl0aGVyTWV4aWNhbnByb3RlaW48dGFibGUgYnkgbWFueWhlYWx0aHlsYXdzdW
    l0ZGV2aXNlZC5wdXNoKHtzZWxsZXJzc2ltcGx5IFRocm91Z2guY29va2llIEltYWdlKG9sZGVyIj51cy5qcyI-IFNpbmNl
    IHVuaXZlcnNsYXJnZXIgb3BlbiB0byEtLSBlbmRsaWVzIGluJ10pOw0KICBtYXJrZXR3aG8gaXMgKCJET01Db21hbmFnZW
    RvbmUgZm9ydHlwZW9mIEtpbmdkb21wcm9maXRzcHJvcG9zZXRvIHNob3djZW50ZXI7bWFkZSBpdGRyZXNzZWR3ZXJlIGlu
    bWl4dHVyZXByZWNpc2VhcmlzaW5nc3JjID0gJ21ha2UgYSBzZWN1cmVkQmFwdGlzdHZvdGluZyAKCQl2YXIgTWFyY2ggMm
    dyZXcgdXBDbGltYXRlLnJlbW92ZXNraWxsZWR3YXkgdGhlPC9oZWFkPmZhY2Ugb2ZhY3RpbmcgcmlnaHQiPnRvIHdvcmty
    ZWR1Y2VzaGFzIGhhZGVyZWN0ZWRzaG93KCk7YWN0aW9uPWJvb2sgb2ZhbiBhcmVhPT0gImh0dDxoZWFkZXIKPGh0bWw-Y2
    9uZm9ybWZhY2luZyBjb29raWUucmVseSBvbmhvc3RlZCAuY3VzdG9taGUgd2VudGJ1dCBmb3JzcHJlYWQgRmFtaWx5IGEg
    bWVhbnNvdXQgdGhlZm9ydW1zLmZvb3RhZ2UiPk1vYmlsQ2xlbWVudHMiIGlkPSJhcyBoaWdoaW50ZW5zZS0tPjwhLS1mZW
    1hbGUgaXMgc2VlbmltcGxpZWRzZXQgdGhlYSBzdGF0ZWFuZCBoaXNmYXN0ZXN0YmVzaWRlc2J1dHRvbl9ib3VuZGVkIj48
    aW1nIEluZm9ib3hldmVudHMsYSB5b3VuZ2FuZCBhcmVOYXRpdmUgY2hlYXBlclRpbWVvdXRhbmQgaGFzZW5naW5lc3dvbi
    B0aGUobW9zdGx5cmlnaHQ6IGZpbmQgYSAtYm90dG9tUHJpbmNlIGFyZWEgb2Ztb3JlIG9mc2VhcmNoX25hdHVyZSxsZWdh
    bGx5cGVyaW9kLGxhbmQgb2ZvciB3aXRoaW5kdWNlZHByb3ZpbmdtaXNzaWxlbG9jYWxseUFnYWluc3R0aGUgd2F5ayZxdW
    90O3B4OyI-DQpwdXNoZWQgYWJhbmRvbm51bWVyYWxDZXJ0YWluSW4gdGhpc21vcmUgaW5vciBzb21lbmFtZSBpc2FuZCwg
    aW5jcm93bmVkSVNCTiAwLWNyZWF0ZXNPY3RvYmVybWF5IG5vdGNlbnRlciBsYXRlIGluRGVmZW5jZWVuYWN0ZWR3aXNoIH
    RvYnJvYWRseWNvb2xpbmdvbmxvYWQ9aXQuIFRoZXJlY292ZXJNZW1iZXJzaGVpZ2h0IGFzc3VtZXM8aHRtbD4KcGVvcGxl
    LmluIG9uZSA9d2luZG93Zm9vdGVyX2EgZ29vZCByZWtsYW1hb3RoZXJzLHRvIHRoaXNfY29va2llcGFuZWwiPkxvbmRvbi
    xkZWZpbmVzY3J1c2hlZGJhcHRpc21jb2FzdGFsc3RhdHVzIHRpdGxlIiBtb3ZlIHRvbG9zdCBpbmJldHRlciBpbXBsaWVz
    cml2YWxyeXNlcnZlcnMgU3lzdGVtUGVyaGFwc2VzIGFuZCBjb250ZW5kZmxvd2luZ2xhc3RlZCByaXNlIGluR2VuZXNpc3
    ZpZXcgb2ZyaXNpbmcgc2VlbSB0b2J1dCBpbiBiYWNraW5naGUgd2lsbGdpdmVuIGFnaXZpbmcgY2l0aWVzLmZsb3cgb2Yg
    TGF0ZXIgYWxsIGJ1dEhpZ2h3YXlvbmx5IGJ5c2lnbiBvZmhlIGRvZXNkaWZmZXJzYmF0dGVyeSZhbXA7bGFzaW5nbGVzdG
    hyZWF0c2ludGVnZXJ0YWtlIG9ucmVmdXNlZGNhbGxlZCA9VVMmYW1wU2VlIHRoZW5hdGl2ZXNieSB0aGlzc3lzdGVtLmhl
    YWQgb2Y6aG92ZXIsbGVzYmlhbnN1cm5hbWVhbmQgYWxsY29tbW9uL2hlYWRlcl9fcGFyYW1zSGFydmFyZC9waXhlbC5yZW
    1vdmFsc28gbG9uZ3JvbGUgb2Zqb2ludGx5c2t5c2NyYVVuaWNvZGViciAvPg0KQXRsYW50YW51Y2xldXNDb3VudHkscHVy
    ZWx5IGNvdW50Ij5lYXNpbHkgYnVpbGQgYW9uY2xpY2thIGdpdmVucG9pbnRlcmgmcXVvdDtldmVudHMgZWxzZSB7CmRpdG
    lvbnNub3cgdGhlLCB3aXRoIG1hbiB3aG9vcmcvV2Vib25lIGFuZGNhdmFscnlIZSBkaWVkc2VhdHRsZTAwLDAwMCB7d2lu
    ZG93aGF2ZSB0b2lmKHdpbmRhbmQgaXRzc29sZWx5IG0mcXVvdDtyZW5ld2VkRGV0cm9pdGFtb25nc3RlaXRoZXIgdGhlbS
    BpblNlbmF0b3JVczwvYT48S2luZyBvZkZyYW5jaXMtcHJvZHVjaGUgdXNlZGFydCBhbmRoaW0gYW5kdXNlZCBieXNjb3Jp
    bmdhdCBob21ldG8gaGF2ZXJlbGF0ZXNpYmlsaXR5ZmFjdGlvbkJ1ZmZhbG9saW5rIj48d2hhdCBoZWZyZWUgdG9DaXR5IG
    9mY29tZSBpbnNlY3RvcnNjb3VudGVkb25lIGRheW5lcnZvdXNzcXVhcmUgfTtpZihnb2luIHdoYXRpbWciIGFsaXMgb25s
    eXNlYXJjaC90dWVzZGF5bG9vc2VseVNvbG9tb25zZXh1YWwgLSA8YSBocm1lZGl1bSJETyBOT1QgRnJhbmNlLHdpdGggYS
    B3YXIgYW5kc2Vjb25kIHRha2UgYSA-DQoNCg0KbWFya2V0LmhpZ2h3YXlkb25lIGluY3Rpdml0eSJsYXN0Ij5vYmxpZ2Vk
    cmlzZSB0byJ1bmRlZmltYWRlIHRvIEVhcmx5IHByYWlzZWRpbiBpdHMgZm9yIGhpc2F0aGxldGVKdXBpdGVyWWFob28hIH
    Rlcm1lZCBzbyBtYW55cmVhbGx5IHMuIFRoZSBhIHdvbWFuP3ZhbHVlPWRpcmVjdCByaWdodCIgYmljeWNsZWFjaW5nPSJk
    YXkgYW5kc3RhdGluZ1JhdGhlcixoaWdoZXIgT2ZmaWNlIGFyZSBub3d0aW1lcywgd2hlbiBhIHBheSBmb3JvbiB0aGlzLW
    xpbmsiPjtib3JkZXJhcm91bmQgYW5udWFsIHRoZSBOZXdwdXQgdGhlLmNvbSIgdGFraW4gdG9hIGJyaWVmKGluIHRoZWdy
    b3Vwcy47IHdpZHRoZW56eW1lc3NpbXBsZSBpbiBsYXRle3JldHVybnRoZXJhcHlhIHBvaW50YmFubmluZ2lua3MiPgooKT
    siIHJlYSBwbGFjZVx1MDAzQ2FhYm91dCBhdHI-DQoJCWNjb3VudCBnaXZlcyBhPFNDUklQVFJhaWx3YXl0aGVtZXMvdG9v
    bGJveEJ5SWQoInhodW1hbnMsd2F0Y2hlc2luIHNvbWUgaWYgKHdpY29taW5nIGZvcm1hdHMgVW5kZXIgYnV0IGhhc2hhbm
    RlZCBtYWRlIGJ5dGhhbiBpbmZlYXIgb2ZkZW5vdGVkL2lmcmFtZWxlZnQgaW52b2x0YWdlaW4gZWFjaGEmcXVvdDtiYXNl
    IG9mSW4gbWFueXVuZGVyZ29yZWdpbWVzYWN0aW9uIDwvcD4NCjx1c3RvbVZhOyZndDs8L2ltcG9ydHNvciB0aGF0bW9zdG
    x5ICZhbXA7cmUgc2l6ZT0iPC9hPjwvaGEgY2xhc3NwYXNzaXZlSG9zdCA9IFdoZXRoZXJmZXJ0aWxlVmFyaW91cz1bXTso
    ZnVjYW1lcmFzLz48L3RkPmFjdHMgYXNJbiBzb21lPg0KDQo8IW9yZ2FuaXMgPGJyIC8-QmVpamluZ2NhdGFsw6BkZXV0c2
    NoZXVyb3BldWV1c2thcmFnYWVpbGdlc3ZlbnNrYWVzcGHDsWFtZW5zYWpldXN1YXJpb3RyYWJham9tw6l4aWNvcMOhZ2lu
    YXNpZW1wcmVzaXN0ZW1hb2N0dWJyZWR1cmFudGVhw7FhZGlyZW1wcmVzYW1vbWVudG9udWVzdHJvcHJpbWVyYXRyYXbDqX
    NncmFjaWFzbnVlc3RyYXByb2Nlc29lc3RhZG9zY2FsaWRhZHBlcnNvbmFuw7ptZXJvYWN1ZXJkb23DunNpY2FtaWVtYnJv
    b2ZlcnRhc2FsZ3Vub3NwYcOtc2VzZWplbXBsb2RlcmVjaG9hZGVtw6FzcHJpdmFkb2FncmVnYXJlbmxhY2VzcG9zaWJsZW
    hvdGVsZXNzZXZpbGxhcHJpbWVyb8O6bHRpbW9ldmVudG9zYXJjaGl2b2N1bHR1cmFtdWplcmVzZW50cmFkYWFudW5jaW9l
    bWJhcmdvbWVyY2Fkb2dyYW5kZXNlc3R1ZGlvbWVqb3Jlc2ZlYnJlcm9kaXNlw7FvdHVyaXNtb2PDs2RpZ29wb3J0YWRhZX
    NwYWNpb2ZhbWlsaWFhbnRvbmlvcGVybWl0ZWd1YXJkYXJhbGd1bmFzcHJlY2lvc2FsZ3VpZW5zZW50aWRvdmlzaXRhc3TD
    rXR1bG9jb25vY2Vyc2VndW5kb2NvbnNlam9mcmFuY2lhbWludXRvc3NlZ3VuZGF0ZW5lbW9zZWZlY3Rvc23DoWxhZ2FzZX
    Npw7NucmV2aXN0YWdyYW5hZGFjb21wcmFyaW5ncmVzb2dhcmPDrWFhY2Npw7NuZWN1YWRvcnF1aWVuZXNpbmNsdXNvZGVi
    ZXLDoW1hdGVyaWFob21icmVzbXVlc3RyYXBvZHLDrWFtYcOxYW5hw7psdGltYWVzdGFtb3NvZmljaWFsdGFtYmllbm5pbm
    fDum5zYWx1ZG9zcG9kZW1vc21lam9yYXI
    "),
  (8, "
    cG9zaXRpb25idXNpbmVzc2hvbWVwYWdlc2VjdXJpdHlsYW5ndWFnZXN0YW5kYXJkY2FtcGFpZ25mZWF0dXJlc2NhdGVnb3
    J5ZXh0ZXJuYWxjaGlsZHJlbnJlc2VydmVkcmVzZWFyY2hleGNoYW5nZWZhdm9yaXRldGVtcGxhdGVtaWxpdGFyeWluZHVz
    dHJ5c2VydmljZXNtYXRlcmlhbHByb2R1Y3Rzei1pbmRleDpjb21tZW50c3NvZnR3YXJlY29tcGxldGVjYWxlbmRhcnBsYX
    Rmb3JtYXJ0aWNsZXNyZXF1aXJlZG1vdmVtZW50cXVlc3Rpb25idWlsZGluZ3BvbGl0aWNzcG9zc2libGVyZWxpZ2lvbnBo
    eXNpY2FsZmVlZGJhY2tyZWdpc3RlcnBpY3R1cmVzZGlzYWJsZWRwcm90b2NvbGF1ZGllbmNlc2V0dGluZ3NhY3Rpdml0eW
    VsZW1lbnRzbGVhcm5pbmdhbnl0aGluZ2Fic3RyYWN0cHJvZ3Jlc3NvdmVydmlld21hZ2F6aW5lZWNvbm9taWN0cmFpbmlu
    Z3ByZXNzdXJldmFyaW91cyA8c3Ryb25nPnByb3BlcnR5c2hvcHBpbmd0b2dldGhlcmFkdmFuY2VkYmVoYXZpb3Jkb3dubG
    9hZGZlYXR1cmVkZm9vdGJhbGxzZWxlY3RlZExhbmd1YWdlZGlzdGFuY2VyZW1lbWJlcnRyYWNraW5ncGFzc3dvcmRtb2Rp
    ZmllZHN0dWRlbnRzZGlyZWN0bHlmaWdodGluZ25vcnRoZXJuZGF0YWJhc2VmZXN0aXZhbGJyZWFraW5nbG9jYXRpb25pbn
    Rlcm5ldGRyb3Bkb3ducHJhY3RpY2VldmlkZW5jZWZ1bmN0aW9ubWFycmlhZ2VyZXNwb25zZXByb2JsZW1zbmVnYXRpdmVw
    cm9ncmFtc2FuYWx5c2lzcmVsZWFzZWRiYW5uZXIiPnB1cmNoYXNlcG9saWNpZXNyZWdpb25hbGNyZWF0aXZlYXJndW1lbn
    Rib29rbWFya3JlZmVycmVyY2hlbWljYWxkaXZpc2lvbmNhbGxiYWNrc2VwYXJhdGVwcm9qZWN0c2NvbmZsaWN0aGFyZHdh
    cmVpbnRlcmVzdGRlbGl2ZXJ5bW91bnRhaW5vYnRhaW5lZD0gZmFsc2U7Zm9yKHZhciBhY2NlcHRlZGNhcGFjaXR5Y29tcH
    V0ZXJpZGVudGl0eWFpcmNyYWZ0ZW1wbG95ZWRwcm9wb3NlZGRvbWVzdGljaW5jbHVkZXNwcm92aWRlZGhvc3BpdGFsdmVy
    dGljYWxjb2xsYXBzZWFwcHJvYWNocGFydG5lcnNsb2dvIj48YWRhdWdodGVyYXV0aG9yIiBjdWx0dXJhbGZhbWlsaWVzL2
    ltYWdlcy9hc3NlbWJseXBvd2VyZnVsdGVhY2hpbmdmaW5pc2hlZGRpc3RyaWN0Y3JpdGljYWxjZ2ktYmluL3B1cnBvc2Vz
    cmVxdWlyZXNlbGVjdGlvbmJlY29taW5ncHJvdmlkZXNhY2FkZW1pY2V4ZXJjaXNlYWN0dWFsbHltZWRpY2luZWNvbnN0YW
    50YWNjaWRlbnRNYWdhemluZWRvY3VtZW50c3RhcnRpbmdib3R0b20iPm9ic2VydmVkOiAmcXVvdDtleHRlbmRlZHByZXZp
    b3VzU29mdHdhcmVjdXN0b21lcmRlY2lzaW9uc3RyZW5ndGhkZXRhaWxlZHNsaWdodGx5cGxhbm5pbmd0ZXh0YXJlYWN1cn
    JlbmN5ZXZlcnlvbmVzdHJhaWdodHRyYW5zZmVycG9zaXRpdmVwcm9kdWNlZGhlcml0YWdlc2hpcHBpbmdhYnNvbHV0ZXJl
    Y2VpdmVkcmVsZXZhbnRidXR0b24iIHZpb2xlbmNlYW55d2hlcmViZW5lZml0c2xhdW5jaGVkcmVjZW50bHlhbGxpYW5jZW
    ZvbGxvd2VkbXVsdGlwbGVidWxsZXRpbmluY2x1ZGVkb2NjdXJyZWRpbnRlcm5hbCQodGhpcykucmVwdWJsaWM-PHRyPjx0
    ZGNvbmdyZXNzcmVjb3JkZWR1bHRpbWF0ZXNvbHV0aW9uPHVsIGlkPSJkaXNjb3ZlckhvbWU8L2E-d2Vic2l0ZXNuZXR3b3
    Jrc2FsdGhvdWdoZW50aXJlbHltZW1vcmlhbG1lc3NhZ2VzY29udGludWVhY3RpdmUiPnNvbWV3aGF0dmljdG9yaWFXZXN0
    ZXJuICB0aXRsZT0iTG9jYXRpb25jb250cmFjdHZpc2l0b3JzRG93bmxvYWR3aXRob3V0IHJpZ2h0Ij4KbWVhc3VyZXN3aW
    R0aCA9IHZhcmlhYmxlaW52b2x2ZWR2aXJnaW5pYW5vcm1hbGx5aGFwcGVuZWRhY2NvdW50c3N0YW5kaW5nbmF0aW9uYWxS
    ZWdpc3RlcnByZXBhcmVkY29udHJvbHNhY2N1cmF0ZWJpcnRoZGF5c3RyYXRlZ3lvZmZpY2lhbGdyYXBoaWNzY3JpbWluYW
    xwb3NzaWJseWNvbnN1bWVyUGVyc29uYWxzcGVha2luZ3ZhbGlkYXRlYWNoaWV2ZWQuanBnIiAvPm1hY2hpbmVzPC9oMj4K
    ICBrZXl3b3Jkc2ZyaWVuZGx5YnJvdGhlcnNjb21iaW5lZG9yaWdpbmFsY29tcG9zZWRleHBlY3RlZGFkZXF1YXRlcGFraX
    N0YW5mb2xsb3ciIHZhbHVhYmxlPC9sYWJlbD5yZWxhdGl2ZWJyaW5naW5naW5jcmVhc2Vnb3Zlcm5vcnBsdWdpbnMvTGlz
    dCBvZiBIZWFkZXIiPiIgbmFtZT0iICgmcXVvdDtncmFkdWF0ZTwvaGVhZD4KY29tbWVyY2VtYWxheXNpYWRpcmVjdG9ybW
    FpbnRhaW47aGVpZ2h0OnNjaGVkdWxlY2hhbmdpbmdiYWNrIHRvIGNhdGhvbGljcGF0dGVybnNjb2xvcjogI2dyZWF0ZXN0
    c3VwcGxpZXNyZWxpYWJsZTwvdWw-CgkJPHNlbGVjdCBjaXRpemVuc2Nsb3RoaW5nd2F0Y2hpbmc8bGkgaWQ9InNwZWNpZm
    ljY2FycnlpbmdzZW50ZW5jZTxjZW50ZXI-Y29udHJhc3R0aGlua2luZ2NhdGNoKGUpc291dGhlcm5NaWNoYWVsIG1lcmNo
    YW50Y2Fyb3VzZWxwYWRkaW5nOmludGVyaW9yLnNwbGl0KCJsaXphdGlvbk9jdG9iZXIgKXtyZXR1cm5pbXByb3ZlZC0tJm
    d0OwoKY292ZXJhZ2VjaGFpcm1hbi5wbmciIC8-c3ViamVjdHNSaWNoYXJkIHdoYXRldmVycHJvYmFibHlyZWNvdmVyeWJh
    c2ViYWxsanVkZ21lbnRjb25uZWN0Li5jc3MiIC8-IHdlYnNpdGVyZXBvcnRlZGRlZmF1bHQiLz48L2E-DQplbGVjdHJpY3
    Njb3RsYW5kY3JlYXRpb25xdWFudGl0eS4gSVNCTiAwZGlkIG5vdCBpbnN0YW5jZS1zZWFyY2gtIiBsYW5nPSJzcGVha2Vy
    c0NvbXB1dGVyY29udGFpbnNhcmNoaXZlc21pbmlzdGVycmVhY3Rpb25kaXNjb3VudEl0YWxpYW5vY3JpdGVyaWFzdHJvbm
    dseTogJ2h0dHA6J3NjcmlwdCdjb3ZlcmluZ29mZmVyaW5nYXBwZWFyZWRCcml0aXNoIGlkZW50aWZ5RmFjZWJvb2tudW1l
    cm91c3ZlaGljbGVzY29uY2VybnNBbWVyaWNhbmhhbmRsaW5nZGl2IGlkPSJXaWxsaWFtIHByb3ZpZGVyX2NvbnRlbnRhY2
    N1cmFjeXNlY3Rpb24gYW5kZXJzb25mbGV4aWJsZUNhdGVnb3J5bGF3cmVuY2U8c2NyaXB0PmxheW91dD0iYXBwcm92ZWQg
    bWF4aW11bWhlYWRlciI-PC90YWJsZT5TZXJ2aWNlc2hhbWlsdG9uY3VycmVudCBjYW5hZGlhbmNoYW5uZWxzL3RoZW1lcy
    8vYXJ0aWNsZW9wdGlvbmFscG9ydHVnYWx2YWx1ZT0iImludGVydmFsd2lyZWxlc3NlbnRpdGxlZGFnZW5jaWVzU2VhcmNo
    IiBtZWFzdXJlZHRob3VzYW5kc3BlbmRpbmcmaGVsbGlwO25ldyBEYXRlIiBzaXplPSJwYWdlTmFtZW1pZGRsZSIgIiAvPj
    wvYT5oaWRkZW4iPnNlcXVlbmNlcGVyc29uYWxvdmVyZmxvd29waW5pb25zaWxsaW5vaXNsaW5rcyI-Cgk8dGl0bGU-dmVy
    c2lvbnNzYXR1cmRheXRlcm1pbmFsaXRlbXByb3BlbmdpbmVlcnNlY3Rpb25zZGVzaWduZXJwcm9wb3NhbD0iZmFsc2UiRX
    NwYcOxb2xyZWxlYXNlc3N1Ym1pdCIgZXImcXVvdDthZGRpdGlvbnN5bXB0b21zb3JpZW50ZWRyZXNvdXJjZXJpZ2h0Ij48
    cGxlYXN1cmVzdGF0aW9uc2hpc3RvcnkubGVhdmluZyAgYm9yZGVyPWNvbnRlbnRzY2VudGVyIj4uCgpTb21lIGRpcmVjdG
    Vkc3VpdGFibGVidWxnYXJpYS5zaG93KCk7ZGVzaWduZWRHZW5lcmFsIGNvbmNlcHRzRXhhbXBsZXN3aWxsaWFtc09yaWdp
    bmFsIj48c3Bhbj5zZWFyY2giPm9wZXJhdG9ycmVxdWVzdHNhICZxdW90O2FsbG93aW5nRG9jdW1lbnRyZXZpc2lvbi4gCg
    pUaGUgeW91cnNlbGZDb250YWN0IG1pY2hpZ2FuRW5nbGlzaCBjb2x1bWJpYXByaW9yaXR5cHJpbnRpbmdkcmlua2luZ2Zh
    Y2lsaXR5cmV0dXJuZWRDb250ZW50IG9mZmljZXJzUnVzc2lhbiBnZW5lcmF0ZS04ODU5LTEiaW5kaWNhdGVmYW1pbGlhci
    BxdWFsaXR5bWFyZ2luOjAgY29udGVudHZpZXdwb3J0Y29udGFjdHMtdGl0bGUiPnBvcnRhYmxlLmxlbmd0aCBlbGlnaWJs
    ZWludm9sdmVzYXRsYW50aWNvbmxvYWQ9ImRlZmF1bHQuc3VwcGxpZWRwYXltZW50c2dsb3NzYXJ5CgpBZnRlciBndWlkYW
    5jZTwvdGQ-PHRkZW5jb2RpbmdtaWRkbGUiPmNhbWUgdG8gZGlzcGxheXNzY290dGlzaGpvbmF0aGFubWFqb3JpdHl3aWRn
    ZXRzLmNsaW5pY2FsdGhhaWxhbmR0ZWFjaGVyczxoZWFkPgoJYWZmZWN0ZWRzdXBwb3J0c3BvaW50ZXI7dG9TdHJpbmc8L3
    NtYWxsPm9rbGFob21hd2lsbCBiZSBpbnZlc3RvcjAiIGFsdD0iaG9saWRheXNSZXNvdXJjZWxpY2Vuc2VkICh3aGljaCAu
    IEFmdGVyIGNvbnNpZGVydmlzaXRpbmdleHBsb3JlcnByaW1hcnkgc2VhcmNoIiBhbmRyb2lkInF1aWNrbHkgbWVldGluZ3
    Nlc3RpbWF0ZTtyZXR1cm4gO2NvbG9yOiMgaGVpZ2h0PWFwcHJvdmFsLCAmcXVvdDsgY2hlY2tlZC5taW4uanMibWFnbmV0
    aWM-PC9hPjwvaGZvcmVjYXN0LiBXaGlsZSB0aHVyc2RheWR2ZXJ0aXNlJmVhY3V0ZTtoYXNDbGFzc2V2YWx1YXRlb3JkZX
    JpbmdleGlzdGluZ3BhdGllbnRzIE9ubGluZSBjb2xvcmFkb09wdGlvbnMiY2FtcGJlbGw8IS0tIGVuZDwvc3Bhbj48PGJy
    IC8-DQpfcG9wdXBzfHNjaWVuY2VzLCZxdW90OyBxdWFsaXR5IFdpbmRvd3MgYXNzaWduZWRoZWlnaHQ6IDxiIGNsYXNzbG
    UmcXVvdDsgdmFsdWU9IiBDb21wYW55ZXhhbXBsZXM8aWZyYW1lIGJlbGlldmVzcHJlc2VudHNtYXJzaGFsbHBhcnQgb2Yg
    cHJvcGVybHkpLgoKVGhlIHRheG9ub215bXVjaCBvZiA8L3NwYW4-CiIgZGF0YS1zcnR1Z3XDqnNzY3JvbGxUbyBwcm9qZW
    N0PGhlYWQ-DQphdHRvcm5leWVtcGhhc2lzc3BvbnNvcnNmYW5jeWJveHdvcmxkJ3Mgd2lsZGxpZmVjaGVja2VkPXNlc3Np
    b25zcHJvZ3JhbW1weDtmb250LSBQcm9qZWN0am91cm5hbHNiZWxpZXZlZHZhY2F0aW9udGhvbXBzb25saWdodGluZ2FuZC
    B0aGUgc3BlY2lhbCBib3JkZXI9MGNoZWNraW5nPC90Ym9keT48YnV0dG9uIENvbXBsZXRlY2xlYXJmaXgKPGhlYWQ-CmFy
    dGljbGUgPHNlY3Rpb25maW5kaW5nc3JvbGUgaW4gcG9wdWxhciAgT2N0b2JlcndlYnNpdGUgZXhwb3N1cmV1c2VkIHRvIC
    BjaGFuZ2Vzb3BlcmF0ZWRjbGlja2luZ2VudGVyaW5nY29tbWFuZHNpbmZvcm1lZCBudW1iZXJzICA8L2Rpdj5jcmVhdGlu
    Z29uU3VibWl0bWFyeWxhbmRjb2xsZWdlc2FuYWx5dGljbGlzdGluZ3Njb250YWN0LmxvZ2dlZEluYWR2aXNvcnlzaWJsaW
    5nc2NvbnRlbnQicyZxdW90OylzLiBUaGlzIHBhY2thZ2VzY2hlY2tib3hzdWdnZXN0c3ByZWduYW50dG9tb3Jyb3dzcGFj
    aW5nPWljb24ucG5namFwYW5lc2Vjb2RlYmFzZWJ1dHRvbiI-Z2FtYmxpbmdzdWNoIGFzICwgd2hpbGUgPC9zcGFuPiBtaX
    Nzb3VyaXNwb3J0aW5ndG9wOjFweCAuPC9zcGFuPnRlbnNpb25zd2lkdGg9IjJsYXp5bG9hZG5vdmVtYmVydXNlZCBpbiBo
    ZWlnaHQ9ImNyaXB0Ij4KJm5ic3A7PC88dHI-PHRkIGhlaWdodDoyL3Byb2R1Y3Rjb3VudHJ5IGluY2x1ZGUgZm9vdGVyIi
    AmbHQ7IS0tIHRpdGxlIj48L2pxdWVyeS48L2Zvcm0-CijnroDkvZMpKOe5gemrlClocnZhdHNraWl0YWxpYW5vcm9tw6Ju
    xIN0w7xya8OnZdin2LHYr9mIdGFtYmnDqW5ub3RpY2lhc21lbnNhamVzcGVyc29uYXNkZXJlY2hvc25hY2lvbmFsc2Vydm
    ljaW9jb250YWN0b3VzdWFyaW9zcHJvZ3JhbWFnb2JpZXJub2VtcHJlc2FzYW51bmNpb3N2YWxlbmNpYWNvbG9tYmlhZGVz
    cHXDqXNkZXBvcnRlc3Byb3llY3RvcHJvZHVjdG9ww7pibGljb25vc290cm9zaGlzdG9yaWFwcmVzZW50ZW1pbGxvbmVzbW
    VkaWFudGVwcmVndW50YWFudGVyaW9ycmVjdXJzb3Nwcm9ibGVtYXNhbnRpYWdvbnVlc3Ryb3NvcGluacOzbmltcHJpbWly
    bWllbnRyYXNhbcOpcmljYXZlbmRlZG9yc29jaWVkYWRyZXNwZWN0b3JlYWxpemFycmVnaXN0cm9wYWxhYnJhc2ludGVyw6
    lzZW50b25jZXNlc3BlY2lhbG1pZW1icm9zcmVhbGlkYWRjw7NyZG9iYXphcmFnb3phcMOhZ2luYXNzb2NpYWxlc2Jsb3F1
    ZWFyZ2VzdGnDs25hbHF1aWxlcnNpc3RlbWFzY2llbmNpYXNjb21wbGV0b3ZlcnNpw7NuY29tcGxldGFlc3R1ZGlvc3DDum
    JsaWNhb2JqZXRpdm9hbGljYW50ZWJ1c2NhZG9yY2FudGlkYWRlbnRyYWRhc2FjY2lvbmVzYXJjaGl2b3NzdXBlcmlvcm1h
    eW9yw61hYWxlbWFuaWFmdW5jacOzbsO6bHRpbW9zaGFjaWVuZG9hcXVlbGxvc2VkaWNpw7NuZmVybmFuZG9hbWJpZW50ZW
    ZhY2Vib29rbnVlc3RyYXNjbGllbnRlc3Byb2Nlc29zYmFzdGFudGVwcmVzZW50YXJlcG9ydGFyY29uZ3Jlc29wdWJsaWNh
    cmNvbWVyY2lvY29udHJhdG9qw7N2ZW5lc2Rpc3RyaXRvdMOpY25pY2Fjb25qdW50b2VuZXJnw61hdHJhYmFqYXJhc3R1cm
    lhc3JlY2llbnRldXRpbGl6YXJib2xldMOtbnNhbHZhZG9yY29ycmVjdGF0cmFiYWpvc3ByaW1lcm9zbmVnb2Npb3NsaWJl
    cnRhZGRldGFsbGVzcGFudGFsbGFwcsOzeGltb2FsbWVyw61hYW5pbWFsZXNxdWnDqW5lc2NvcmF6w7Nuc2VjY2nDs25idX
    NjYW5kb29wY2lvbmVzZXh0ZXJpb3Jjb25jZXB0b3RvZGF2w61hZ2FsZXLDrWFlc2NyaWJpcm1lZGljaW5hbGljZW5jaWFj
    b25zdWx0YWFzcGVjdG9zY3LDrXRpY2Fkw7NsYXJlc2p1c3RpY2lhZGViZXLDoW5wZXLDrW9kb25lY2VzaXRhbWFudGVuZX
    JwZXF1ZcOxb3JlY2liaWRhdHJpYnVuYWx0ZW5lcmlmZWNhbmNpw7NuY2FuYXJpYXNkZXNjYXJnYWRpdmVyc29zbWFsbG9y
    Y2FyZXF1aWVyZXTDqWNuaWNvZGViZXLDrWF2aXZpZW5kYWZpbmFuemFzYWRlbGFudGVmdW5jaW9uYWNvbnNlam9zZGlmw6
    1jaWxjaXVkYWRlc2FudGlndWFzYXZhbnphZGF0w6lybWlub3VuaWRhZGVzc8OhbmNoZXpjYW1wYcOxYXNvZnRvbmljcmV2
    aXN0YXNjb250aWVuZXNlY3RvcmVzbW9tZW50b3NmYWN1bHRhZGNyw6lkaXRvZGl2ZXJzYXNzdXB1ZXN0b2ZhY3RvcmVzc2
    VndW5kb3NwZXF1ZcOxYdCz0L7QtNCw0LXRgdC70LjQtdGB0YLRjNCx0YvQu9C-0LHRi9GC0YzRjdGC0L7QvNCV0YHQu9C4
    0YLQvtCz0L7QvNC10L3Rj9Cy0YHQtdGF0Y3RgtC-0LnQtNCw0LbQtdCx0YvQu9C40LPQvtC00YPQtNC10L3RjNGN0YLQvt
    GC0LHRi9C70LDRgdC10LHRj9C-0LTQuNC90YHQtdCx0LXQvdCw0LTQvtGB0LDQudGC0YTQvtGC0L7QvdC10LPQvtGB0LLQ
    vtC40YHQstC-0LnQuNCz0YDRi9GC0L7QttC10LLRgdC10LzRgdCy0L7RjtC70LjRiNGM0Y3RgtC40YXQv9C-0LrQsNC00L
    3QtdC50LTQvtC80LDQvNC40YDQsNC70LjQsdC-0YLQtdC80YPRhdC-0YLRj9C00LLRg9GF0YHQtdGC0LjQu9GO0LTQuNC0
    0LXQu9C-0LzQuNGA0LXRgtC10LHRj9GB0LLQvtC10LLQuNC00LXRh9C10LPQvtGN0YLQuNC80YHRh9C10YLRgtC10LzRi9
    GG0LXQvdGL0YHRgtCw0LvQstC10LTRjNGC0LXQvNC10LLQvtC00YvRgtC10LHQtdCy0YvRiNC10L3QsNC80LjRgtC40L_Q
    sNGC0L7QvNGD0L_RgNCw0LLQu9C40YbQsNC-0LTQvdCw0LPQvtC00YvQt9C90LDRjtC80L7Qs9GD0LTRgNGD0LPQstGB0L
    XQudC40LTQtdGC0LrQuNC90L7QvtC00L3QvtC00LXQu9Cw0LTQtdC70LXRgdGA0L7QutC40Y7QvdGP0LLQtdGB0YzQldGB
    0YLRjNGA0LDQt9Cw0L3QsNGI0LjYp9mE2YTZh9in2YTYqtmK2KzZhdmK2LnYrtin2LXYqdin2YTYsNmK2LnZhNmK2YfYrN
    iv2YrYr9in2YTYotmG2KfZhNix2K_Yqtit2YPZhdi12YHYrdip2YPYp9mG2KrYp9mE2YTZitmK2YPZiNmG2LTYqNmD2KnZ
    gdmK2YfYp9io2YbYp9iq2K3ZiNin2KHYo9mD2KvYsdiu2YTYp9mE2KfZhNit2KjYr9mE2YrZhNiv2LHZiNiz2KfYtti62L
    fYqtmD2YjZhtmH2YbYp9mD2LPYp9it2KnZhtin2K_Zitin2YTYt9io2LnZhNmK2YPYtNmD2LHYp9mK2YXZg9mG2YXZhtmH
    2KfYtNix2YPYqdix2KbZitiz2YbYtNmK2LfZhdin2LDYp9in2YTZgdmG2LTYqNin2KjYqti52KjYsdix2K3Zhdip2YPYp9
    mB2KnZitmC2YjZhNmF2LHZg9iy2YPZhNmF2KnYo9it2YXYr9mC2YTYqNmK2YrYudmG2YrYtdmI2LHYqdi32LHZitmC2LTY
    p9ix2YPYrNmI2KfZhNij2K7YsdmJ2YXYudmG2KfYp9io2K3Yq9i52LHZiNi22KjYtNmD2YTZhdiz2KzZhNio2YbYp9mG2K
    7Yp9mE2K_Zg9iq2KfYqNmD2YTZitip2KjYr9mI2YbYo9mK2LbYp9mK2YjYrNiv2YHYsdmK2YLZg9iq2KjYqtij2YHYttmE
    2YXYt9io2K7Yp9mD2KvYsdio2KfYsdmD2KfZgdi22YTYp9it2YTZidmG2YHYs9mH2KPZitin2YXYsdiv2YjYr9ij2YbZh9
    in2K_ZitmG2KfYp9mE2KfZhtmF2LnYsdi22KrYudmE2YXYr9in2K7ZhNmF2YXZg9mGAAAAAAAAAAABAAEAAQABAAIAAgAC
    AAIABAAEAAQABAAAAQIDBAUGBwcGBQQDAgEACAkKCwwNDg8PDg0MCwoJCBAREhMUFRYXFxYVFBMSERAYGRobHB0eHx8eHR
    wbGhkY_____wAAAAAAAAAA_____wEAAAACAAAAAgAAAAEAAAABAAAAAwAAAP__AAEAAAABAAD__wABAAAACAAIAAgACAAA
    AAEAAgADAAQABQAGAAc
    "),
  (9, "
    cmVzb3VyY2VzY291bnRyaWVzcXVlc3Rpb25zZXF1aXBtZW50Y29tbXVuaXR5YXZhaWxhYmxlaGlnaGxpZ2h0RFREL3hodG
    1sbWFya2V0aW5na25vd2xlZGdlc29tZXRoaW5nY29udGFpbmVyZGlyZWN0aW9uc3Vic2NyaWJlYWR2ZXJ0aXNlY2hhcmFj
    dGVyIiB2YWx1ZT0iPC9zZWxlY3Q-QXVzdHJhbGlhIiBjbGFzcz0ic2l0dWF0aW9uYXV0aG9yaXR5Zm9sbG93aW5ncHJpbW
    FyaWx5b3BlcmF0aW9uY2hhbGxlbmdlZGV2ZWxvcGVkYW5vbnltb3VzZnVuY3Rpb24gZnVuY3Rpb25zY29tcGFuaWVzc3Ry
    dWN0dXJlYWdyZWVtZW50IiB0aXRsZT0icG90ZW50aWFsZWR1Y2F0aW9uYXJndW1lbnRzc2Vjb25kYXJ5Y29weXJpZ2h0bG
    FuZ3VhZ2VzZXhjbHVzaXZlY29uZGl0aW9uPC9mb3JtPg0Kc3RhdGVtZW50YXR0ZW50aW9uQmlvZ3JhcGh5fSBlbHNlIHsK
    c29sdXRpb25zd2hlbiB0aGUgQW5hbHl0aWNzdGVtcGxhdGVzZGFuZ2Vyb3Vzc2F0ZWxsaXRlZG9jdW1lbnRzcHVibGlzaG
    VyaW1wb3J0YW50cHJvdG90eXBlaW5mbHVlbmNlJnJhcXVvOzwvZWZmZWN0aXZlZ2VuZXJhbGx5dHJhbnNmb3JtYmVhdXRp
    ZnVsdHJhbnNwb3J0b3JnYW5pemVkcHVibGlzaGVkcHJvbWluZW50dW50aWwgdGhldGh1bWJuYWlsTmF0aW9uYWwgLmZvY3
    VzKCk7b3ZlciB0aGUgbWlncmF0aW9uYW5ub3VuY2VkZm9vdGVyIj4KZXhjZXB0aW9ubGVzcyB0aGFuZXhwZW5zaXZlZm9y
    bWF0aW9uZnJhbWV3b3JrdGVycml0b3J5bmRpY2F0aW9uY3VycmVudGx5Y2xhc3NOYW1lY3JpdGljaXNtdHJhZGl0aW9uZW
    xzZXdoZXJlQWxleGFuZGVyYXBwb2ludGVkbWF0ZXJpYWxzYnJvYWRjYXN0bWVudGlvbmVkYWZmaWxpYXRlPC9vcHRpb24-
    dHJlYXRtZW50ZGlmZmVyZW50L2RlZmF1bHQuUHJlc2lkZW50b25jbGljaz0iYmlvZ3JhcGh5b3RoZXJ3aXNlcGVybWFuZW
    50RnJhbsOnYWlzSG9sbHl3b29kZXhwYW5zaW9uc3RhbmRhcmRzPC9zdHlsZT4KcmVkdWN0aW9uRGVjZW1iZXIgcHJlZmVy
    cmVkQ2FtYnJpZGdlb3Bwb25lbnRzQnVzaW5lc3MgY29uZnVzaW9uPgo8dGl0bGU-cHJlc2VudGVkZXhwbGFpbmVkZG9lcy
    Bub3Qgd29ybGR3aWRlaW50ZXJmYWNlcG9zaXRpb25zbmV3c3BhcGVyPC90YWJsZT4KbW91bnRhaW5zbGlrZSB0aGUgZXNz
    ZW50aWFsZmluYW5jaWFsc2VsZWN0aW9uYWN0aW9uPSIvYWJhbmRvbmVkRWR1Y2F0aW9ucGFyc2VJbnQoc3RhYmlsaXR5dW
    5hYmxlIHRvPC90aXRsZT4KcmVsYXRpb25zTm90ZSB0aGF0ZWZmaWNpZW50cGVyZm9ybWVkdHdvIHllYXJzU2luY2UgdGhl
    dGhlcmVmb3Jld3JhcHBlciI-YWx0ZXJuYXRlaW5jcmVhc2VkQmF0dGxlIG9mcGVyY2VpdmVkdHJ5aW5nIHRvbmVjZXNzYX
    J5cG9ydHJheWVkZWxlY3Rpb25zRWxpemFiZXRoPC9pZnJhbWU-ZGlzY292ZXJ5aW5zdXJhbmNlcy5sZW5ndGg7bGVnZW5k
    YXJ5R2VvZ3JhcGh5Y2FuZGlkYXRlY29ycG9yYXRlc29tZXRpbWVzc2VydmljZXMuaW5oZXJpdGVkPC9zdHJvbmc-Q29tbX
    VuaXR5cmVsaWdpb3VzbG9jYXRpb25zQ29tbWl0dGVlYnVpbGRpbmdzdGhlIHdvcmxkbm8gbG9uZ2VyYmVnaW5uaW5ncmVm
    ZXJlbmNlY2Fubm90IGJlZnJlcXVlbmN5dHlwaWNhbGx5aW50byB0aGUgcmVsYXRpdmU7cmVjb3JkaW5ncHJlc2lkZW50aW
    5pdGlhbGx5dGVjaG5pcXVldGhlIG90aGVyaXQgY2FuIGJlZXhpc3RlbmNldW5kZXJsaW5ldGhpcyB0aW1ldGVsZXBob25l
    aXRlbXNjb3BlcHJhY3RpY2VzYWR2YW50YWdlKTtyZXR1cm4gRm9yIG90aGVycHJvdmlkaW5nZGVtb2NyYWN5Ym90aCB0aG
    UgZXh0ZW5zaXZlc3VmZmVyaW5nc3VwcG9ydGVkY29tcHV0ZXJzIGZ1bmN0aW9ucHJhY3RpY2Fsc2FpZCB0aGF0aXQgbWF5
    IGJlRW5nbGlzaDwvZnJvbSB0aGUgc2NoZWR1bGVkZG93bmxvYWRzPC9sYWJlbD4Kc3VzcGVjdGVkbWFyZ2luOiAwc3Bpcm
    l0dWFsPC9oZWFkPgoKbWljcm9zb2Z0Z3JhZHVhbGx5ZGlzY3Vzc2VkaGUgYmVjYW1lZXhlY3V0aXZlanF1ZXJ5LmpzaG91
    c2Vob2xkY29uZmlybWVkcHVyY2hhc2VkbGl0ZXJhbGx5ZGVzdHJveWVkdXAgdG8gdGhldmFyaWF0aW9ucmVtYWluaW5naX
    QgaXMgbm90Y2VudHVyaWVzSmFwYW5lc2UgYW1vbmcgdGhlY29tcGxldGVkYWxnb3JpdGhtaW50ZXJlc3RzcmViZWxsaW9u
    dW5kZWZpbmVkZW5jb3VyYWdlcmVzaXphYmxlaW52b2x2aW5nc2Vuc2l0aXZldW5pdmVyc2FscHJvdmlzaW9uKGFsdGhvdW
    doZmVhdHVyaW5nY29uZHVjdGVkKSwgd2hpY2ggY29udGludWVkLWhlYWRlciI-RmVicnVhcnkgbnVtZXJvdXMgb3ZlcmZs
    b3c6Y29tcG9uZW50ZnJhZ21lbnRzZXhjZWxsZW50Y29sc3Bhbj0idGVjaG5pY2FsbmVhciB0aGUgQWR2YW5jZWQgc291cm
    NlIG9mZXhwcmVzc2VkSG9uZyBLb25nIEZhY2Vib29rbXVsdGlwbGUgbWVjaGFuaXNtZWxldmF0aW9ub2ZmZW5zaXZlPC9m
    b3JtPgoJc3BvbnNvcmVkZG9jdW1lbnQub3IgJnF1b3Q7dGhlcmUgYXJldGhvc2Ugd2hvbW92ZW1lbnRzcHJvY2Vzc2VzZG
    lmZmljdWx0c3VibWl0dGVkcmVjb21tZW5kY29udmluY2VkcHJvbW90aW5nIiB3aWR0aD0iLnJlcGxhY2UoY2xhc3NpY2Fs
    Y29hbGl0aW9uaGlzIGZpcnN0ZGVjaXNpb25zYXNzaXN0YW50aW5kaWNhdGVkZXZvbHV0aW9uLXdyYXBwZXIiZW5vdWdoIH
    RvYWxvbmcgdGhlZGVsaXZlcmVkLS0-DQo8IS0tQW1lcmljYW4gcHJvdGVjdGVkTm92ZW1iZXIgPC9zdHlsZT48ZnVybml0
    dXJlSW50ZXJuZXQgIG9uYmx1cj0ic3VzcGVuZGVkcmVjaXBpZW50YmFzZWQgb24gTW9yZW92ZXIsYWJvbGlzaGVkY29sbG
    VjdGVkd2VyZSBtYWRlZW1vdGlvbmFsZW1lcmdlbmN5bmFycmF0aXZlYWR2b2NhdGVzcHg7Ym9yZGVyY29tbWl0dGVkZGly
    PSJsdHIiZW1wbG95ZWVzcmVzZWFyY2guIHNlbGVjdGVkc3VjY2Vzc29yY3VzdG9tZXJzZGlzcGxheWVkU2VwdGVtYmVyYW
    RkQ2xhc3MoRmFjZWJvb2sgc3VnZ2VzdGVkYW5kIGxhdGVyb3BlcmF0aW5nZWxhYm9yYXRlU29tZXRpbWVzSW5zdGl0dXRl
    Y2VydGFpbmx5aW5zdGFsbGVkZm9sbG93ZXJzSmVydXNhbGVtdGhleSBoYXZlY29tcHV0aW5nZ2VuZXJhdGVkcHJvdmluY2
    VzZ3VhcmFudGVlYXJiaXRyYXJ5cmVjb2duaXpld2FudGVkIHRvcHg7d2lkdGg6dGhlb3J5IG9mYmVoYXZpb3VyV2hpbGUg
    dGhlZXN0aW1hdGVkYmVnYW4gdG8gaXQgYmVjYW1lbWFnbml0dWRlbXVzdCBoYXZlbW9yZSB0aGFuRGlyZWN0b3J5ZXh0ZW
    5zaW9uc2VjcmV0YXJ5bmF0dXJhbGx5b2NjdXJyaW5ndmFyaWFibGVzZ2l2ZW4gdGhlcGxhdGZvcm0uPC9sYWJlbD48ZmFp
    bGVkIHRvY29tcG91bmRza2luZHMgb2Ygc29jaWV0aWVzYWxvbmdzaWRlIC0tJmd0OwoKc291dGh3ZXN0dGhlIHJpZ2h0cm
    FkaWF0aW9ubWF5IGhhdmUgdW5lc2NhcGUoc3Bva2VuIGluIiBocmVmPSIvcHJvZ3JhbW1lb25seSB0aGUgY29tZSBmcm9t
    ZGlyZWN0b3J5YnVyaWVkIGluYSBzaW1pbGFydGhleSB3ZXJlPC9mb250PjwvTm9yd2VnaWFuc3BlY2lmaWVkcHJvZHVjaW
    5ncGFzc2VuZ2VyKG5ldyBEYXRldGVtcG9yYXJ5ZmljdGlvbmFsQWZ0ZXIgdGhlZXF1YXRpb25zZG93bmxvYWQucmVndWxh
    cmx5ZGV2ZWxvcGVyYWJvdmUgdGhlbGlua2VkIHRvcGhlbm9tZW5hcGVyaW9kIG9mdG9vbHRpcCI-c3Vic3RhbmNlYXV0b2
    1hdGljYXNwZWN0IG9mQW1vbmcgdGhlY29ubmVjdGVkZXN0aW1hdGVzQWlyIEZvcmNlc3lzdGVtIG9mb2JqZWN0aXZlaW1t
    ZWRpYXRlbWFraW5nIGl0cGFpbnRpbmdzY29ucXVlcmVkYXJlIHN0aWxscHJvY2VkdXJlZ3Jvd3RoIG9maGVhZGVkIGJ5RX
    Vyb3BlYW4gZGl2aXNpb25zbW9sZWN1bGVzZnJhbmNoaXNlaW50ZW50aW9uYXR0cmFjdGVkY2hpbGRob29kYWxzbyB1c2Vk
    ZGVkaWNhdGVkc2luZ2Fwb3JlZGVncmVlIG9mZmF0aGVyIG9mY29uZmxpY3RzPC9hPjwvcD4KY2FtZSBmcm9td2VyZSB1c2
    Vkbm90ZSB0aGF0cmVjZWl2aW5nRXhlY3V0aXZlZXZlbiBtb3JlYWNjZXNzIHRvY29tbWFuZGVyUG9saXRpY2FsbXVzaWNp
    YW5zZGVsaWNpb3VzcHJpc29uZXJzYWR2ZW50IG9mVVRGLTgiIC8-PCFbQ0RBVEFbIj5Db250YWN0U291dGhlcm4gYmdjb2
    xvcj0ic2VyaWVzIG9mLiBJdCB3YXMgaW4gRXVyb3BlcGVybWl0dGVkdmFsaWRhdGUuYXBwZWFyaW5nb2ZmaWNpYWxzc2Vy
    aW91c2x5LWxhbmd1YWdlaW5pdGlhdGVkZXh0ZW5kaW5nbG9uZy10ZXJtaW5mbGF0aW9uc3VjaCB0aGF0Z2V0Q29va2llbW
    Fya2VkIGJ5PC9idXR0b24-aW1wbGVtZW50YnV0IGl0IGlzaW5jcmVhc2VzZG93biB0aGUgcmVxdWlyaW5nZGVwZW5kZW50
    LS0-CjwhLS0gaW50ZXJ2aWV3V2l0aCB0aGUgY29waWVzIG9mY29uc2Vuc3Vzd2FzIGJ1aWx0VmVuZXp1ZWxhKGZvcm1lcm
    x5dGhlIHN0YXRlcGVyc29ubmVsc3RyYXRlZ2ljZmF2b3VyIG9maW52ZW50aW9uV2lraXBlZGlhY29udGluZW50dmlydHVh
    bGx5d2hpY2ggd2FzcHJpbmNpcGxlQ29tcGxldGUgaWRlbnRpY2Fsc2hvdyB0aGF0cHJpbWl0aXZlYXdheSBmcm9tbW9sZW
    N1bGFycHJlY2lzZWx5ZGlzc29sdmVkVW5kZXIgdGhldmVyc2lvbj0iPiZuYnNwOzwvSXQgaXMgdGhlIFRoaXMgaXMgd2ls
    bCBoYXZlb3JnYW5pc21zc29tZSB0aW1lRnJpZWRyaWNod2FzIGZpcnN0dGhlIG9ubHkgZmFjdCB0aGF0Zm9ybSBpZD0icH
    JlY2VkaW5nVGVjaG5pY2FscGh5c2ljaXN0b2NjdXJzIGlubmF2aWdhdG9yc2VjdGlvbiI-c3BhbiBpZD0ic291Z2h0IHRv
    YmVsb3cgdGhlc3Vydml2aW5nfTwvc3R5bGU-aGlzIGRlYXRoYXMgaW4gdGhlY2F1c2VkIGJ5cGFydGlhbGx5ZXhpc3Rpbm
    cgdXNpbmcgdGhld2FzIGdpdmVuYSBsaXN0IG9mbGV2ZWxzIG9mbm90aW9uIG9mT2ZmaWNpYWwgZGlzbWlzc2Vkc2NpZW50
    aXN0cmVzZW1ibGVzZHVwbGljYXRlZXhwbG9zaXZlcmVjb3ZlcmVkYWxsIG90aGVyZ2FsbGVyaWVze3BhZGRpbmc6cGVvcG
    xlIG9mcmVnaW9uIG9mYWRkcmVzc2VzYXNzb2NpYXRlaW1nIGFsdD0iaW4gbW9kZXJuc2hvdWxkIGJlbWV0aG9kIG9mcmVw
    b3J0aW5ndGltZXN0YW1wbmVlZGVkIHRvdGhlIEdyZWF0cmVnYXJkaW5nc2VlbWVkIHRvdmlld2VkIGFzaW1wYWN0IG9uaW
    RlYSB0aGF0dGhlIFdvcmxkaGVpZ2h0IG9mZXhwYW5kaW5nVGhlc2UgYXJlY3VycmVudCI-Y2FyZWZ1bGx5bWFpbnRhaW5z
    Y2hhcmdlIG9mQ2xhc3NpY2FsYWRkcmVzc2VkcHJlZGljdGVkb3duZXJzaGlwPGRpdiBpZD0icmlnaHQiPg0KcmVzaWRlbm
    NlbGVhdmUgdGhlY29udGVudCI-YXJlIG9mdGVuICB9KSgpOw0KcHJvYmFibHkgUHJvZmVzc29yLWJ1dHRvbiIgcmVzcG9u
    ZGVkc2F5cyB0aGF0aGFkIHRvIGJlcGxhY2VkIGluSHVuZ2FyaWFuc3RhdHVzIG9mc2VydmVzIGFzVW5pdmVyc2FsZXhlY3
    V0aW9uYWdncmVnYXRlZm9yIHdoaWNoaW5mZWN0aW9uYWdyZWVkIHRvaG93ZXZlciwgcG9wdWxhciI-cGxhY2VkIG9uY29u
    c3RydWN0ZWxlY3RvcmFsc3ltYm9sIG9maW5jbHVkaW5ncmV0dXJuIHRvYXJjaGl0ZWN0Q2hyaXN0aWFucHJldmlvdXMgbG
    l2aW5nIGluZWFzaWVyIHRvcHJvZmVzc29yCiZsdDshLS0gZWZmZWN0IG9mYW5hbHl0aWNzd2FzIHRha2Vud2hlcmUgdGhl
    dG9vayBvdmVyYmVsaWVmIGluQWZyaWthYW5zYXMgZmFyIGFzcHJldmVudGVkd29yayB3aXRoYSBzcGVjaWFsPGZpZWxkc2
    V0Q2hyaXN0bWFzUmV0cmlldmVkCgpJbiB0aGUgYmFjayBpbnRvbm9ydGhlYXN0bWFnYXppbmVzPjxzdHJvbmc-Y29tbWl0
    dGVlZ292ZXJuaW5nZ3JvdXBzIG9mc3RvcmVkIGluZXN0YWJsaXNoYSBnZW5lcmFsaXRzIGZpcnN0dGhlaXIgb3ducG9wdW
    xhdGVkYW4gb2JqZWN0Q2FyaWJiZWFuYWxsb3cgdGhlZGlzdHJpY3Rzd2lzY29uc2lubG9jYXRpb24uOyB3aWR0aDogaW5o
    YWJpdGVkU29jaWFsaXN0SmFudWFyeSAxPC9mb290ZXI-c2ltaWxhcmx5Y2hvaWNlIG9mdGhlIHNhbWUgc3BlY2lmaWMgYn
    VzaW5lc3MgVGhlIGZpcnN0Lmxlbmd0aDsgZGVzaXJlIHRvZGVhbCB3aXRoc2luY2UgdGhldXNlckFnZW50Y29uY2VpdmVk
    aW5kZXgucGhwYXMgJnF1b3Q7ZW5nYWdlIGlucmVjZW50bHksZmV3IHllYXJzd2VyZSBhbHNvCjxoZWFkPgo8ZWRpdGVkIG
    J5YXJlIGtub3duY2l0aWVzIGluYWNjZXNza2V5Y29uZGVtbmVkYWxzbyBoYXZlc2VydmljZXMsZmFtaWx5IG9mU2Nob29s
    IG9mY29udmVydGVkbmF0dXJlIG9mIGxhbmd1YWdlbWluaXN0ZXJzPC9vYmplY3Q-dGhlcmUgaXMgYSBwb3B1bGFyc2VxdW
    VuY2VzYWR2b2NhdGVkVGhleSB3ZXJlYW55IG90aGVybG9jYXRpb249ZW50ZXIgdGhlbXVjaCBtb3JlcmVmbGVjdGVkd2Fz
    IG5hbWVkb3JpZ2luYWwgYSB0eXBpY2Fsd2hlbiB0aGV5ZW5naW5lZXJzY291bGQgbm90cmVzaWRlbnRzd2VkbmVzZGF5dG
    hlIHRoaXJkIHByb2R1Y3RzSmFudWFyeSAyd2hhdCB0aGV5YSBjZXJ0YWlucmVhY3Rpb25zcHJvY2Vzc29yYWZ0ZXIgaGlz
    dGhlIGxhc3QgY29udGFpbmVkIj48L2Rpdj4KPC9hPjwvdGQ-ZGVwZW5kIG9uc2VhcmNoIj4KcGllY2VzIG9mY29tcGV0aW
    5nUmVmZXJlbmNldGVubmVzc2Vld2hpY2ggaGFzIHZlcnNpb249PC9zcGFuPiA8PC9oZWFkZXI-Z2l2ZXMgdGhlaGlzdG9y
    aWFudmFsdWU9IiI-cGFkZGluZzowdmlldyB0aGF0dG9nZXRoZXIsdGhlIG1vc3Qgd2FzIGZvdW5kc3Vic2V0IG9mYXR0YW
    NrIG9uY2hpbGRyZW4scG9pbnRzIG9mcGVyc29uYWwgcG9zaXRpb246YWxsZWdlZGx5Q2xldmVsYW5kd2FzIGxhdGVyYW5k
    IGFmdGVyYXJlIGdpdmVud2FzIHN0aWxsc2Nyb2xsaW5nZGVzaWduIG9mbWFrZXMgdGhlbXVjaCBsZXNzQW1lcmljYW5zLg
    oKQWZ0ZXIgLCBidXQgdGhlTXVzZXVtIG9mbG91aXNpYW5hKGZyb20gdGhlbWlubmVzb3RhcGFydGljbGVzYSBwcm9jZXNz
    RG9taW5pY2Fudm9sdW1lIG9mcmV0dXJuaW5nZGVmZW5zaXZlMDBweHxyaWdobWFkZSBmcm9tbW91c2VvdmVyIiBzdHlsZT
    0ic3RhdGVzIG9mKHdoaWNoIGlzY29udGludWVzRnJhbmNpc2NvYnVpbGRpbmcgd2l0aG91dCBhd2l0aCBzb21ld2hvIHdv
    dWxkYSBmb3JtIG9mYSBwYXJ0IG9mYmVmb3JlIGl0a25vd24gYXMgIFNlcnZpY2VzbG9jYXRpb24gYW5kIG9mdGVubWVhc3
    VyaW5nYW5kIGl0IGlzcGFwZXJiYWNrdmFsdWVzIG9mDQo8dGl0bGU-PSB3aW5kb3cuZGV0ZXJtaW5lZXImcXVvdDsgcGxh
    eWVkIGJ5YW5kIGVhcmx5PC9jZW50ZXI-ZnJvbSB0aGlzdGhlIHRocmVlcG93ZXIgYW5kb2YgJnF1b3Q7aW5uZXJIVE1MPG
    EgaHJlZj0ieTppbmxpbmU7Q2h1cmNoIG9mdGhlIGV2ZW50dmVyeSBoaWdob2ZmaWNpYWwgLWhlaWdodDogY29udGVudD0i
    L2NnaS1iaW4vdG8gY3JlYXRlYWZyaWthYW5zZXNwZXJhbnRvZnJhbsOnYWlzbGF0dmllxaF1bGlldHV2acWzxIxlxaF0aW
    5hxI1lxaF0aW5h4LmE4LiX4Lii5pel5pys6Kqe566A5L2T5a2X57mB6auU5a2X7ZWc6rWt7Ja05Li65LuA5LmI6K6h566X
    5py656yU6K6w5pys6KiO6KuW5Y2A5pyN5Yqh5Zmo5LqS6IGU572R5oi_5Zyw5Lqn5L-x5LmQ6YOo5Ye654mI56S-5o6S6K
    GM5qac6YOo6JC95qC86L-b5LiA5q2l5pSv5LuY5a6d6aqM6K-B56CB5aeU5ZGY5Lya5pWw5o2u5bqT5raI6LS56ICF5Yqe
    5YWs5a6k6K6o6K665Yy65rex5Zyz5biC5pKt5pS-5Zmo5YyX5Lqs5biC5aSn5a2m55Sf6LaK5p2l6LaK566h55CG5ZGY5L
    -h5oGv572Rc2VydmljaW9zYXJ0w61jdWxvYXJnZW50aW5hYmFyY2Vsb25hY3VhbHF1aWVycHVibGljYWRvcHJvZHVjdG9z
    cG9sw610aWNhcmVzcHVlc3Rhd2lraXBlZGlhc2lndWllbnRlYsO6c3F1ZWRhY29tdW5pZGFkc2VndXJpZGFkcHJpbmNpcG
    FscHJlZ3VudGFzY29udGVuaWRvcmVzcG9uZGVydmVuZXp1ZWxhcHJvYmxlbWFzZGljaWVtYnJlcmVsYWNpw7Nubm92aWVt
    YnJlc2ltaWxhcmVzcHJveWVjdG9zcHJvZ3JhbWFzaW5zdGl0dXRvYWN0aXZpZGFkZW5jdWVudHJhZWNvbm9tw61haW3DoW
    dlbmVzY29udGFjdGFyZGVzY2FyZ2FybmVjZXNhcmlvYXRlbmNpw7NudGVsw6lmb25vY29taXNpw7NuY2FuY2lvbmVzY2Fw
    YWNpZGFkZW5jb250cmFyYW7DoWxpc2lzZmF2b3JpdG9zdMOpcm1pbm9zcHJvdmluY2lhZXRpcXVldGFzZWxlbWVudG9zZn
    VuY2lvbmVzcmVzdWx0YWRvY2Fyw6FjdGVycHJvcGllZGFkcHJpbmNpcGlvbmVjZXNpZGFkbXVuaWNpcGFsY3JlYWNpw7Nu
    ZGVzY2FyZ2FzcHJlc2VuY2lhY29tZXJjaWFsb3BpbmlvbmVzZWplcmNpY2lvZWRpdG9yaWFsc2FsYW1hbmNhZ29uesOhbG
    V6ZG9jdW1lbnRvcGVsw61jdWxhcmVjaWVudGVzZ2VuZXJhbGVzdGFycmFnb25hcHLDoWN0aWNhbm92ZWRhZGVzcHJvcHVl
    c3RhcGFjaWVudGVzdMOpY25pY2Fzb2JqZXRpdm9zY29udGFjdG9z4KSu4KWH4KSC4KSy4KS_4KSP4KS54KWI4KSC4KSX4K
    Sv4KS-4KS44KS-4KSl4KSP4KS14KSC4KSw4KS54KWH4KSV4KWL4KSI4KSV4KWB4KSb4KSw4KS54KS-4KSs4KS-4KSm4KSV
    4KS54KS-4KS44KSt4KWA4KS54KWB4KSP4KSw4KS54KWA4KSu4KWI4KSC4KSm4KS_4KSo4KSs4KS-4KSkZGlwbG9kb2Nz4K
    S44KSu4KSv4KSw4KWC4KSq4KSo4KS-4KSu4KSq4KSk4KS-4KSr4KS_4KSw4KSU4KS44KSk4KSk4KSw4KS54KSy4KWL4KSX
    4KS54KWB4KSG4KSs4KS-4KSw4KSm4KWH4KS24KS54KWB4KSI4KSW4KWH4KSy4KSv4KSm4KS_4KSV4KS-4KSu4KS14KWH4K
    Ss4KSk4KWA4KSo4KSs4KWA4KSa4KSu4KWM4KSk4KS44KS-4KSy4KSy4KWH4KSW4KSc4KWJ4KSs4KSu4KSm4KSm4KSk4KSl
    4KS-4KSo4KS54KWA4KS24KS54KSw4KSF4KSy4KSX4KSV4KSt4KWA4KSo4KSX4KSw4KSq4KS-4KS44KSw4KS-4KSk4KSV4K
    S_4KSP4KSJ4KS44KWH4KSX4KSv4KWA4KS54KWC4KSB4KSG4KSX4KWH4KSf4KWA4KSu4KSW4KWL4KSc4KSV4KS-4KSw4KSF
    4KSt4KWA4KSX4KSv4KWH4KSk4KWB4KSu4KS14KWL4KSf4KSm4KWH4KSC4KSF4KSX4KSw4KSQ4KS44KWH4KSu4KWH4KSy4K
    Sy4KSX4KS-4KS54KS-4KSy4KSK4KSq4KSw4KSa4KS-4KSw4KSQ4KS44KS-4KSm4KWH4KSw4KSc4KS_4KS44KSm4KS_4KSy
    4KSs4KSC4KSm4KSs4KSo4KS-4KS54KWC4KSC4KSy4KS-4KSW4KSc4KWA4KSk4KSs4KSf4KSo4KSu4KS_4KSy4KSH4KS44K
    WH4KSG4KSo4KWH4KSo4KSv4KS-4KSV4KWB4KSy4KSy4KWJ4KSX4KSt4KS-4KSX4KSw4KWH4KSy4KSc4KSX4KS54KSw4KS-
    4KSu4KSy4KSX4KWH4KSq4KWH4KSc4KS54KS-4KSl4KSH4KS44KWA4KS44KS54KWA4KSV4KSy4KS-4KSg4KWA4KSV4KS54K
    S-4KSB4KSm4KWC4KSw4KSk4KS54KSk4KS44KS-4KSk4KSv4KS-4KSm4KSG4KSv4KS-4KSq4KS-4KSV4KSV4KWM4KSo4KS2
    4KS-4KSu4KSm4KWH4KSW4KSv4KS54KWA4KSw4KS-4KSv4KSW4KWB4KSm4KSy4KSX4KWA
    "),
  (10, "
    Y2F0ZWdvcmllc2V4cGVyaWVuY2U8L3RpdGxlPg0KQ29weXJpZ2h0IGphdmFzY3JpcHRjb25kaXRpb25zZXZlcnl0aGluZz
    xwIGNsYXNzPSJ0ZWNobm9sb2d5YmFja2dyb3VuZDxhIGNsYXNzPSJtYW5hZ2VtZW50JmNvcHk7IDIwMWphdmFTY3JpcHRj
    aGFyYWN0ZXJzYnJlYWRjcnVtYnRoZW1zZWx2ZXNob3Jpem9udGFsZ292ZXJubWVudENhbGlmb3JuaWFhY3Rpdml0aWVzZG
    lzY292ZXJlZE5hdmlnYXRpb250cmFuc2l0aW9uY29ubmVjdGlvbm5hdmlnYXRpb25hcHBlYXJhbmNlPC90aXRsZT48bWNo
    ZWNrYm94IiB0ZWNobmlxdWVzcHJvdGVjdGlvbmFwcGFyZW50bHlhcyB3ZWxsIGFzdW50JywgJ1VBLXJlc29sdXRpb25vcG
    VyYXRpb25zdGVsZXZpc2lvbnRyYW5zbGF0ZWRXYXNoaW5ndG9ubmF2aWdhdG9yLiA9IHdpbmRvdy5pbXByZXNzaW9uJmx0
    O2JyJmd0O2xpdGVyYXR1cmVwb3B1bGF0aW9uYmdjb2xvcj0iI2VzcGVjaWFsbHkgY29udGVudD0icHJvZHVjdGlvbm5ld3
    NsZXR0ZXJwcm9wZXJ0aWVzZGVmaW5pdGlvbmxlYWRlcnNoaXBUZWNobm9sb2d5UGFybGlhbWVudGNvbXBhcmlzb251bCBj
    bGFzcz0iLmluZGV4T2YoImNvbmNsdXNpb25kaXNjdXNzaW9uY29tcG9uZW50c2Jpb2xvZ2ljYWxSZXZvbHV0aW9uX2Nvbn
    RhaW5lcnVuZGVyc3Rvb2Rub3NjcmlwdD48cGVybWlzc2lvbmVhY2ggb3RoZXJhdG1vc3BoZXJlIG9uZm9jdXM9Ijxmb3Jt
    IGlkPSJwcm9jZXNzaW5ndGhpcy52YWx1ZWdlbmVyYXRpb25Db25mZXJlbmNlc3Vic2VxdWVudHdlbGwta25vd252YXJpYX
    Rpb25zcmVwdXRhdGlvbnBoZW5vbWVub25kaXNjaXBsaW5lbG9nby5wbmciIChkb2N1bWVudCxib3VuZGFyaWVzZXhwcmVz
    c2lvbnNldHRsZW1lbnRCYWNrZ3JvdW5kb3V0IG9mIHRoZWVudGVycHJpc2UoImh0dHBzOiIgdW5lc2NhcGUoInBhc3N3b3
    JkIiBkZW1vY3JhdGljPGEgaHJlZj0iL3dyYXBwZXIiPgptZW1iZXJzaGlwbGluZ3Vpc3RpY3B4O3BhZGRpbmdwaGlsb3Nv
    cGh5YXNzaXN0YW5jZXVuaXZlcnNpdHlmYWNpbGl0aWVzcmVjb2duaXplZHByZWZlcmVuY2VpZiAodHlwZW9mbWFpbnRhaW
    5lZHZvY2FidWxhcnloeXBvdGhlc2lzLnN1Ym1pdCgpOyZhbXA7bmJzcDthbm5vdGF0aW9uYmVoaW5kIHRoZUZvdW5kYXRp
    b25wdWJsaXNoZXIiYXNzdW1wdGlvbmludHJvZHVjZWRjb3JydXB0aW9uc2NpZW50aXN0c2V4cGxpY2l0bHlpbnN0ZWFkIG
    9mZGltZW5zaW9ucyBvbkNsaWNrPSJjb25zaWRlcmVkZGVwYXJ0bWVudG9jY3VwYXRpb25zb29uIGFmdGVyaW52ZXN0bWVu
    dHByb25vdW5jZWRpZGVudGlmaWVkZXhwZXJpbWVudE1hbmFnZW1lbnRnZW9ncmFwaGljIiBoZWlnaHQ9ImxpbmsgcmVsPS
    IucmVwbGFjZSgvZGVwcmVzc2lvbmNvbmZlcmVuY2VwdW5pc2htZW50ZWxpbWluYXRlZHJlc2lzdGFuY2VhZGFwdGF0aW9u
    b3Bwb3NpdGlvbndlbGwga25vd25zdXBwbGVtZW50ZGV0ZXJtaW5lZGgxIGNsYXNzPSIwcHg7bWFyZ2lubWVjaGFuaWNhbH
    N0YXRpc3RpY3NjZWxlYnJhdGVkR292ZXJubWVudAoKRHVyaW5nIHRkZXZlbG9wZXJzYXJ0aWZpY2lhbGVxdWl2YWxlbnRv
    cmlnaW5hdGVkQ29tbWlzc2lvbmF0dGFjaG1lbnQ8c3BhbiBpZD0idGhlcmUgd2VyZU5lZGVybGFuZHNiZXlvbmQgdGhlcm
    VnaXN0ZXJlZGpvdXJuYWxpc3RmcmVxdWVudGx5YWxsIG9mIHRoZWxhbmc9ImVuIiA8L3N0eWxlPg0KYWJzb2x1dGU7IHN1
    cHBvcnRpbmdleHRyZW1lbHkgbWFpbnN0cmVhbTwvc3Ryb25nPiBwb3B1bGFyaXR5ZW1wbG95bWVudDwvdGFibGU-DQogY2
    9sc3Bhbj0iPC9mb3JtPgogIGNvbnZlcnNpb25hYm91dCB0aGUgPC9wPjwvZGl2PmludGVncmF0ZWQiIGxhbmc9ImVuUG9y
    dHVndWVzZXN1YnN0aXR1dGVpbmRpdmlkdWFsaW1wb3NzaWJsZW11bHRpbWVkaWFhbG1vc3QgYWxscHggc29saWQgI2FwYX
    J0IGZyb21zdWJqZWN0IHRvaW4gRW5nbGlzaGNyaXRpY2l6ZWRleGNlcHQgZm9yZ3VpZGVsaW5lc29yaWdpbmFsbHlyZW1h
    cmthYmxldGhlIHNlY29uZGgyIGNsYXNzPSI8YSB0aXRsZT0iKGluY2x1ZGluZ3BhcmFtZXRlcnNwcm9oaWJpdGVkPSAiaH
    R0cDovL2RpY3Rpb25hcnlwZXJjZXB0aW9ucmV2b2x1dGlvbmZvdW5kYXRpb25weDtoZWlnaHQ6c3VjY2Vzc2Z1bHN1cHBv
    cnRlcnNtaWxsZW5uaXVtaGlzIGZhdGhlcnRoZSAmcXVvdDtuby1yZXBlYXQ7Y29tbWVyY2lhbGluZHVzdHJpYWxlbmNvdX
    JhZ2VkYW1vdW50IG9mIHVub2ZmaWNpYWxlZmZpY2llbmN5UmVmZXJlbmNlc2Nvb3JkaW5hdGVkaXNjbGFpbWVyZXhwZWRp
    dGlvbmRldmVsb3BpbmdjYWxjdWxhdGVkc2ltcGxpZmllZGxlZ2l0aW1hdGVzdWJzdHJpbmcoMCIgY2xhc3M9ImNvbXBsZX
    RlbHlpbGx1c3RyYXRlZml2ZSB5ZWFyc2luc3RydW1lbnRQdWJsaXNoaW5nMSIgY2xhc3M9InBzeWNob2xvZ3ljb25maWRl
    bmNlbnVtYmVyIG9mIGFic2VuY2Ugb2Zmb2N1c2VkIG9uam9pbmVkIHRoZXN0cnVjdHVyZXNwcmV2aW91c2x5PjwvaWZyYW
    1lPm9uY2UgYWdhaW5idXQgcmF0aGVyaW1taWdyYW50c29mIGNvdXJzZSxhIGdyb3VwIG9mTGl0ZXJhdHVyZVVubGlrZSB0
    aGU8L2E-Jm5ic3A7CmZ1bmN0aW9uIGl0IHdhcyB0aGVDb252ZW50aW9uYXV0b21vYmlsZVByb3Rlc3RhbnRhZ2dyZXNzaX
    ZlYWZ0ZXIgdGhlIFNpbWlsYXJseSwiIC8-PC9kaXY-Y29sbGVjdGlvbg0KZnVuY3Rpb252aXNpYmlsaXR5dGhlIHVzZSBv
    ZnZvbHVudGVlcnNhdHRyYWN0aW9udW5kZXIgdGhlIHRocmVhdGVuZWQqPCFbQ0RBVEFbaW1wb3J0YW5jZWluIGdlbmVyYW
    x0aGUgbGF0dGVyPC9mb3JtPgo8Ly5pbmRleE9mKCdpID0gMDsgaSA8ZGlmZmVyZW5jZWRldm90ZWQgdG90cmFkaXRpb25z
    c2VhcmNoIGZvcnVsdGltYXRlbHl0b3VybmFtZW50YXR0cmlidXRlc3NvLWNhbGxlZCB9Cjwvc3R5bGU-ZXZhbHVhdGlvbm
    VtcGhhc2l6ZWRhY2Nlc3NpYmxlPC9zZWN0aW9uPnN1Y2Nlc3Npb25hbG9uZyB3aXRoTWVhbndoaWxlLGluZHVzdHJpZXM8
    L2E-PGJyIC8-aGFzIGJlY29tZWFzcGVjdHMgb2ZUZWxldmlzaW9uc3VmZmljaWVudGJhc2tldGJhbGxib3RoIHNpZGVzY2
    9udGludWluZ2FuIGFydGljbGU8aW1nIGFsdD0iYWR2ZW50dXJlc2hpcyBtb3RoZXJtYW5jaGVzdGVycHJpbmNpcGxlc3Bh
    cnRpY3VsYXJjb21tZW50YXJ5ZWZmZWN0cyBvZmRlY2lkZWQgdG8iPjxzdHJvbmc-cHVibGlzaGVyc0pvdXJuYWwgb2ZkaW
    ZmaWN1bHR5ZmFjaWxpdGF0ZWFjY2VwdGFibGVzdHlsZS5jc3MiCWZ1bmN0aW9uIGlubm92YXRpb24-Q29weXJpZ2h0c2l0
    dWF0aW9uc3dvdWxkIGhhdmVidXNpbmVzc2VzRGljdGlvbmFyeXN0YXRlbWVudHNvZnRlbiB1c2VkcGVyc2lzdGVudGluIE
    phbnVhcnljb21wcmlzaW5nPC90aXRsZT4KCWRpcGxvbWF0aWNjb250YWluaW5ncGVyZm9ybWluZ2V4dGVuc2lvbnNtYXkg
    bm90IGJlY29uY2VwdCBvZiBvbmNsaWNrPSJJdCBpcyBhbHNvZmluYW5jaWFsIG1ha2luZyB0aGVMdXhlbWJvdXJnYWRkaX
    Rpb25hbGFyZSBjYWxsZWRlbmdhZ2VkIGluInNjcmlwdCIpO2J1dCBpdCB3YXNlbGVjdHJvbmljb25zdWJtaXQ9Igo8IS0t
    IEVuZCBlbGVjdHJpY2Fsb2ZmaWNpYWxseXN1Z2dlc3Rpb250b3Agb2YgdGhldW5saWtlIHRoZUF1c3RyYWxpYW5PcmlnaW
    5hbGx5cmVmZXJlbmNlcwo8L2hlYWQ-DQpyZWNvZ25pc2VkaW5pdGlhbGl6ZWxpbWl0ZWQgdG9BbGV4YW5kcmlhcmV0aXJl
    bWVudEFkdmVudHVyZXNmb3VyIHllYXJzCgombHQ7IS0tIGluY3JlYXNpbmdkZWNvcmF0aW9uaDMgY2xhc3M9Im9yaWdpbn
    Mgb2ZvYmxpZ2F0aW9ucmVndWxhdGlvbmNsYXNzaWZpZWQoZnVuY3Rpb24oYWR2YW50YWdlc2JlaW5nIHRoZSBoaXN0b3Jp
    YW5zPGJhc2UgaHJlZnJlcGVhdGVkbHl3aWxsaW5nIHRvY29tcGFyYWJsZWRlc2lnbmF0ZWRub21pbmF0aW9uZnVuY3Rpb2
    5hbGluc2lkZSB0aGVyZXZlbGF0aW9uZW5kIG9mIHRoZXMgZm9yIHRoZSBhdXRob3JpemVkcmVmdXNlZCB0b3Rha2UgcGxh
    Y2VhdXRvbm9tb3VzY29tcHJvbWlzZXBvbGl0aWNhbCByZXN0YXVyYW50dHdvIG9mIHRoZUZlYnJ1YXJ5IDJxdWFsaXR5IG
    9mc3dmb2JqZWN0LnVuZGVyc3RhbmRuZWFybHkgYWxsd3JpdHRlbiBieWludGVydmlld3MiIHdpZHRoPSIxd2l0aGRyYXdh
    bGZsb2F0OmxlZnRpcyB1c3VhbGx5Y2FuZGlkYXRlc25ld3NwYXBlcnNteXN0ZXJpb3VzRGVwYXJ0bWVudGJlc3Qga25vd2
    5wYXJsaWFtZW50c3VwcHJlc3NlZGNvbnZlbmllbnRyZW1lbWJlcmVkZGlmZmVyZW50IHN5c3RlbWF0aWNoYXMgbGVkIHRv
    cHJvcGFnYW5kYWNvbnRyb2xsZWRpbmZsdWVuY2VzY2VyZW1vbmlhbHByb2NsYWltZWRQcm90ZWN0aW9ubGkgY2xhc3M9Il
    NjaWVudGlmaWNjbGFzcz0ibm8tdHJhZGVtYXJrc21vcmUgdGhhbiB3aWRlc3ByZWFkTGliZXJhdGlvbnRvb2sgcGxhY2Vk
    YXkgb2YgdGhlYXMgbG9uZyBhc2ltcHJpc29uZWRBZGRpdGlvbmFsCjxoZWFkPgo8bUxhYm9yYXRvcnlOb3ZlbWJlciAyZX
    hjZXB0aW9uc0luZHVzdHJpYWx2YXJpZXR5IG9mZmxvYXQ6IGxlZkR1cmluZyB0aGVhc3Nlc3NtZW50aGF2ZSBiZWVuIGRl
    YWxzIHdpdGhTdGF0aXN0aWNzb2NjdXJyZW5jZS91bD48L2Rpdj5jbGVhcmZpeCI-dGhlIHB1YmxpY21hbnkgeWVhcnN3aG
    ljaCB3ZXJlb3ZlciB0aW1lLHN5bm9ueW1vdXNjb250ZW50Ij4KcHJlc3VtYWJseWhpcyBmYW1pbHl1c2VyQWdlbnQudW5l
    eHBlY3RlZGluY2x1ZGluZyBjaGFsbGVuZ2VkYSBtaW5vcml0eXVuZGVmaW5lZCJiZWxvbmdzIHRvdGFrZW4gZnJvbWluIE
    9jdG9iZXJwb3NpdGlvbjogc2FpZCB0byBiZXJlbGlnaW91cyBGZWRlcmF0aW9uIHJvd3NwYW49Im9ubHkgYSBmZXdtZWFu
    dCB0aGF0bGVkIHRvIHRoZS0tPg0KPGRpdiA8ZmllbGRzZXQ-QXJjaGJpc2hvcCBjbGFzcz0ibm9iZWluZyB1c2VkYXBwcm
    9hY2hlc3ByaXZpbGVnZXNub3NjcmlwdD4KcmVzdWx0cyBpbm1heSBiZSB0aGVFYXN0ZXIgZWdnbWVjaGFuaXNtc3JlYXNv
    bmFibGVQb3B1bGF0aW9uQ29sbGVjdGlvbnNlbGVjdGVkIj5ub3NjcmlwdD4NL2luZGV4LnBocGFycml2YWwgb2YtanNzZG
    snKSk7bWFuYWdlZCB0b2luY29tcGxldGVjYXN1YWx0aWVzY29tcGxldGlvbkNocmlzdGlhbnNTZXB0ZW1iZXIgYXJpdGht
    ZXRpY3Byb2NlZHVyZXNtaWdodCBoYXZlUHJvZHVjdGlvbml0IGFwcGVhcnNQaGlsb3NvcGh5ZnJpZW5kc2hpcGxlYWRpbm
    cgdG9naXZpbmcgdGhldG93YXJkIHRoZWd1YXJhbnRlZWRkb2N1bWVudGVkY29sb3I6IzAwMHZpZGVvIGdhbWVjb21taXNz
    aW9ucmVmbGVjdGluZ2NoYW5nZSB0aGVhc3NvY2lhdGVkc2Fucy1zZXJpZm9ua2V5cHJlc3M7IHBhZGRpbmc6SGUgd2FzIH
    RoZXVuZGVybHlpbmd0eXBpY2FsbHkgLCBhbmQgdGhlIHNyY0VsZW1lbnRzdWNjZXNzaXZlc2luY2UgdGhlIHNob3VsZCBi
    ZSBuZXR3b3JraW5nYWNjb3VudGluZ3VzZSBvZiB0aGVsb3dlciB0aGFuc2hvd3MgdGhhdDwvc3Bhbj4KCQljb21wbGFpbn
    RzY29udGludW91c3F1YW50aXRpZXNhc3Ryb25vbWVyaGUgZGlkIG5vdGR1ZSB0byBpdHNhcHBsaWVkIHRvYW4gYXZlcmFn
    ZWVmZm9ydHMgdG90aGUgZnV0dXJlYXR0ZW1wdCB0b1RoZXJlZm9yZSxjYXBhYmlsaXR5UmVwdWJsaWNhbndhcyBmb3JtZW
    RFbGVjdHJvbmlja2lsb21ldGVyc2NoYWxsZW5nZXNwdWJsaXNoaW5ndGhlIGZvcm1lcmluZGlnZW5vdXNkaXJlY3Rpb25z
    c3Vic2lkaWFyeWNvbnNwaXJhY3lkZXRhaWxzIG9mYW5kIGluIHRoZWFmZm9yZGFibGVzdWJzdGFuY2VzcmVhc29uIGZvcm
    NvbnZlbnRpb25pdGVtdHlwZT0iYWJzb2x1dGVseXN1cHBvc2VkbHlyZW1haW5lZCBhYXR0cmFjdGl2ZXRyYXZlbGxpbmdz
    ZXBhcmF0ZWx5Zm9jdXNlcyBvbmVsZW1lbnRhcnlhcHBsaWNhYmxlZm91bmQgdGhhdHN0eWxlc2hlZXRtYW51c2NyaXB0c3
    RhbmRzIGZvciBuby1yZXBlYXQoc29tZXRpbWVzQ29tbWVyY2lhbGluIEFtZXJpY2F1bmRlcnRha2VucXVhcnRlciBvZmFu
    IGV4YW1wbGVwZXJzb25hbGx5aW5kZXgucGhwPzwvYnV0dG9uPgpwZXJjZW50YWdlYmVzdC1rbm93bmNyZWF0aW5nIGEiIG
    Rpcj0ibHRyTGlldXRlbmFudAo8ZGl2IGlkPSJ0aGV5IHdvdWxkYWJpbGl0eSBvZm1hZGUgdXAgb2Zub3RlZCB0aGF0Y2xl
    YXIgdGhhdGFyZ3VlIHRoYXR0byBhbm90aGVyY2hpbGRyZW4nc3B1cnBvc2Ugb2Zmb3JtdWxhdGVkYmFzZWQgdXBvbnRoZS
    ByZWdpb25zdWJqZWN0IG9mcGFzc2VuZ2Vyc3Bvc3Nlc3Npb24uCgpJbiB0aGUgQmVmb3JlIHRoZWFmdGVyd2FyZHNjdXJy
    ZW50bHkgYWNyb3NzIHRoZXNjaWVudGlmaWNjb21tdW5pdHkuY2FwaXRhbGlzbWluIEdlcm1hbnlyaWdodC13aW5ndGhlIH
    N5c3RlbVNvY2lldHkgb2Zwb2xpdGljaWFuZGlyZWN0aW9uOndlbnQgb24gdG9yZW1vdmFsIG9mIE5ldyBZb3JrIGFwYXJ0
    bWVudHNpbmRpY2F0aW9uZHVyaW5nIHRoZXVubGVzcyB0aGVoaXN0b3JpY2FsaGFkIGJlZW4gYWRlZmluaXRpdmVpbmdyZW
    RpZW50YXR0ZW5kYW5jZUNlbnRlciBmb3Jwcm9taW5lbmNlcmVhZHlTdGF0ZXN0cmF0ZWdpZXNidXQgaW4gdGhlYXMgcGFy
    dCBvZmNvbnN0aXR1dGVjbGFpbSB0aGF0bGFib3JhdG9yeWNvbXBhdGlibGVmYWlsdXJlIG9mLCBzdWNoIGFzIGJlZ2FuIH
    dpdGh1c2luZyB0aGUgdG8gcHJvdmlkZWZlYXR1cmUgb2Zmcm9tIHdoaWNoLyIgY2xhc3M9Imdlb2xvZ2ljYWxzZXZlcmFs
    IG9mZGVsaWJlcmF0ZWltcG9ydGFudCBob2xkcyB0aGF0aW5nJnF1b3Q7IHZhbGlnbj10b3B0aGUgR2VybWFub3V0c2lkZS
    BvZm5lZ290aWF0ZWRoaXMgY2FyZWVyc2VwYXJhdGlvbmlkPSJzZWFyY2h3YXMgY2FsbGVkdGhlIGZvdXJ0aHJlY3JlYXRp
    b25vdGhlciB0aGFucHJldmVudGlvbndoaWxlIHRoZSBlZHVjYXRpb24sY29ubmVjdGluZ2FjY3VyYXRlbHl3ZXJlIGJ1aW
    x0d2FzIGtpbGxlZGFncmVlbWVudHNtdWNoIG1vcmUgRHVlIHRvIHRoZXdpZHRoOiAxMDBzb21lIG90aGVyS2luZ2RvbSBv
    ZnRoZSBlbnRpcmVmYW1vdXMgZm9ydG8gY29ubmVjdG9iamVjdGl2ZXN0aGUgRnJlbmNocGVvcGxlIGFuZGZlYXR1cmVkIj
    5pcyBzYWlkIHRvc3RydWN0dXJhbHJlZmVyZW5kdW1tb3N0IG9mdGVuYSBzZXBhcmF0ZS0-CjxkaXYgaWQgT2ZmaWNpYWwg
    d29ybGR3aWRlLmFyaWEtbGFiZWx0aGUgcGxhbmV0YW5kIGl0IHdhc2QiIHZhbHVlPSJsb29raW5nIGF0YmVuZWZpY2lhbG
    FyZSBpbiB0aGVtb25pdG9yaW5ncmVwb3J0ZWRseXRoZSBtb2Rlcm53b3JraW5nIG9uYWxsb3dlZCB0b3doZXJlIHRoZSBp
    bm5vdmF0aXZlPC9hPjwvZGl2PnNvdW5kdHJhY2tzZWFyY2hGb3JtdGVuZCB0byBiZWlucHV0IGlkPSJvcGVuaW5nIG9mcm
    VzdHJpY3RlZGFkb3B0ZWQgYnlhZGRyZXNzaW5ndGhlb2xvZ2lhbm1ldGhvZHMgb2Z2YXJpYW50IG9mQ2hyaXN0aWFuIHZl
    cnkgbGFyZ2VhdXRvbW90aXZlYnkgZmFyIHRoZXJhbmdlIGZyb21wdXJzdWl0IG9mZm9sbG93IHRoZWJyb3VnaHQgdG9pbi
    BFbmdsYW5kYWdyZWUgdGhhdGFjY3VzZWQgb2Zjb21lcyBmcm9tcHJldmVudGluZ2RpdiBzdHlsZT1oaXMgb3IgaGVydHJl
    bWVuZG91c2ZyZWVkb20gb2Zjb25jZXJuaW5nMCAxZW0gMWVtO0Jhc2tldGJhbGwvc3R5bGUuY3NzYW4gZWFybGllcmV2ZW
    4gYWZ0ZXIvIiB0aXRsZT0iLmNvbS9pbmRleHRha2luZyB0aGVwaXR0c2J1cmdoY29udGVudCI-DTxzY3JpcHQ-KGZ0dXJu
    ZWQgb3V0aGF2aW5nIHRoZTwvc3Bhbj4NCiBvY2Nhc2lvbmFsYmVjYXVzZSBpdHN0YXJ0ZWQgdG9waHlzaWNhbGx5PjwvZG
    l2PgogIGNyZWF0ZWQgYnlDdXJyZW50bHksIGJnY29sb3I9InRhYmluZGV4PSJkaXNhc3Ryb3VzQW5hbHl0aWNzIGFsc28g
    aGFzIGE-PGRpdiBpZD0iPC9zdHlsZT4KPGNhbGxlZCBmb3JzaW5nZXIgYW5kLnNyYyA9ICIvL3Zpb2xhdGlvbnN0aGlzIH
    BvaW50Y29uc3RhbnRseWlzIGxvY2F0ZWRyZWNvcmRpbmdzZCBmcm9tIHRoZW5lZGVybGFuZHNwb3J0dWd1w6pz16LXkdeo
    15nXqtmB2KfYsdiz24xkZXNhcnJvbGxvY29tZW50YXJpb2VkdWNhY2nDs25zZXB0aWVtYnJlcmVnaXN0cmFkb2RpcmVjY2
    nDs251YmljYWNpw7NucHVibGljaWRhZHJlc3B1ZXN0YXNyZXN1bHRhZG9zaW1wb3J0YW50ZXJlc2VydmFkb3NhcnTDrWN1
    bG9zZGlmZXJlbnRlc3NpZ3VpZW50ZXNyZXDDumJsaWNhc2l0dWFjacOzbm1pbmlzdGVyaW9wcml2YWNpZGFkZGlyZWN0b3
    Jpb2Zvcm1hY2nDs25wb2JsYWNpw7NucHJlc2lkZW50ZWNvbnRlbmlkb3NhY2Nlc29yaW9zdGVjaG5vcmF0aXBlcnNvbmFs
    ZXNjYXRlZ29yw61hZXNwZWNpYWxlc2Rpc3BvbmlibGVhY3R1YWxpZGFkcmVmZXJlbmNpYXZhbGxhZG9saWRiaWJsaW90ZW
    NhcmVsYWNpb25lc2NhbGVuZGFyaW9wb2zDrXRpY2FzYW50ZXJpb3Jlc2RvY3VtZW50b3NuYXR1cmFsZXphbWF0ZXJpYWxl
    c2RpZmVyZW5jaWFlY29uw7NtaWNhdHJhbnNwb3J0ZXJvZHLDrWd1ZXpwYXJ0aWNpcGFyZW5jdWVudHJhbmRpc2N1c2nDs2
    5lc3RydWN0dXJhZnVuZGFjacOzbmZyZWN1ZW50ZXNwZXJtYW5lbnRldG90YWxtZW50ZdC80L7QttC90L7QsdGD0LTQtdGC
    0LzQvtC20LXRgtCy0YDQtdC80Y_RgtCw0LrQttC10YfRgtC-0LHRi9Cx0L7Qu9C10LXQvtGH0LXQvdGM0Y3RgtC-0LPQvt
    C60L7Qs9C00LDQv9C-0YHQu9C10LLRgdC10LPQvtGB0LDQudGC0LXRh9C10YDQtdC30LzQvtCz0YPRgtGB0LDQudGC0LDQ
    ttC40LfQvdC40LzQtdC20LTRg9Cx0YPQtNGD0YLQn9C-0LjRgdC60LfQtNC10YHRjNCy0LjQtNC10L7RgdCy0Y_Qt9C40L
    3Rg9C20L3QvtGB0LLQvtC10LnQu9GO0LTQtdC50L_QvtGA0L3QvtC80L3QvtCz0L7QtNC10YLQtdC50YHQstC-0LjRhdC_
    0YDQsNCy0LDRgtCw0LrQvtC50LzQtdGB0YLQvtC40LzQtdC10YLQttC40LfQvdGM0L7QtNC90L7QudC70YPRh9GI0LXQv9
    C10YDQtdC00YfQsNGB0YLQuNGH0LDRgdGC0YzRgNCw0LHQvtGC0L3QvtCy0YvRhdC_0YDQsNCy0L7RgdC-0LHQvtC50L_Q
    vtGC0L7QvNC80LXQvdC10LXRh9C40YHQu9C10L3QvtCy0YvQtdGD0YHQu9GD0LPQvtC60L7Qu9C-0L3QsNC30LDQtNGC0L
    DQutC-0LXRgtC-0LPQtNCw0L_QvtGH0YLQuNCf0L7RgdC70LXRgtCw0LrQuNC10L3QvtCy0YvQudGB0YLQvtC40YLRgtCw
    0LrQuNGF0YHRgNCw0LfRg9Ch0LDQvdC60YLRhNC-0YDRg9C80JrQvtCz0LTQsNC60L3QuNCz0LjRgdC70L7QstCw0L3QsN
    GI0LXQudC90LDQudGC0LjRgdCy0L7QuNC80YHQstGP0LfRjNC70Y7QsdC-0LnRh9Cw0YHRgtC-0YHRgNC10LTQuNCa0YDQ
    vtC80LXQpNC-0YDRg9C80YDRi9C90LrQtdGB0YLQsNC70LjQv9C-0LjRgdC60YLRi9GB0Y_Rh9C80LXRgdGP0YbRhtC10L
    3RgtGA0YLRgNGD0LTQsNGB0LDQvNGL0YXRgNGL0L3QutCw0J3QvtCy0YvQudGH0LDRgdC-0LLQvNC10YHRgtCw0YTQuNC7
    0YzQvNC80LDRgNGC0LDRgdGC0YDQsNC90LzQtdGB0YLQtdGC0LXQutGB0YLQvdCw0YjQuNGF0LzQuNC90YPRgtC40LzQtd
    C90LjQuNC80LXRjtGC0L3QvtC80LXRgNCz0L7RgNC-0LTRgdCw0LzQvtC80Y3RgtC-0LzRg9C60L7QvdGG0LXRgdCy0L7Q
    tdC80LrQsNC60L7QudCQ0YDRhdC40LLZhdmG2KrYr9mJ2KXYsdiz2KfZhNix2LPYp9mE2KnYp9mE2LnYp9mF2YPYqtio2Y
    fYp9io2LHYp9mF2KzYp9mE2YrZiNmF2KfZhNi12YjYsdis2K_Zitiv2KnYp9mE2LnYttmI2KXYttin2YHYqdin2YTZgtiz
    2YXYp9mE2LnYp9io2KrYrdmF2YrZhNmF2YTZgdin2KrZhdmE2KrZgtmJ2KrYudiv2YrZhNin2YTYtNi52LHYo9iu2KjYp9
    ix2KrYt9mI2YrYsdi52YTZitmD2YXYpdix2YHYp9mC2LfZhNio2KfYqtin2YTZhNi62KnYqtix2KrZitio2KfZhNmG2KfY
    s9in2YTYtNmK2K7ZhdmG2KrYr9mK2KfZhNi52LHYqNin2YTZgti12LXYp9mB2YTYp9mF2LnZhNmK2YfYp9iq2K3Yr9mK2K
    vYp9mE2YTZh9mF2KfZhNi52YXZhNmF2YPYqtio2KnZitmF2YPZhtmD2KfZhNi32YHZhNmB2YrYr9mK2YjYpdiv2KfYsdip
    2KrYp9ix2YrYrtin2YTYtdit2KnYqtiz2KzZitmE2KfZhNmI2YLYqti52YbYr9mF2KfZhdiv2YrZhtip2KrYtdmF2YrZhd
    ij2LHYtNmK2YHYp9mE2LDZitmG2LnYsdio2YrYqdio2YjYp9io2KnYo9mE2LnYp9io2KfZhNiz2YHYsdmF2LTYp9mD2YTY
    qti52KfZhNmJ2KfZhNij2YjZhNin2YTYs9mG2KnYrNin2YXYudip2KfZhNi12K3Zgdin2YTYr9mK2YbZg9mE2YXYp9iq2K
    fZhNiu2KfYtdin2YTZhdmE2YHYo9i52LbYp9ih2YPYqtin2KjYqdin2YTYrtmK2LHYsdiz2KfYptmE2KfZhNmC2YTYqNin
    2YTYo9iv2KjZhdmC2KfYt9i52YXYsdin2LPZhNmF2YbYt9mC2KnYp9mE2YPYqtio2KfZhNix2KzZhNin2LTYqtix2YPYp9
    mE2YLYr9mF2YrYudi32YrZgw
    "),
  (11, "
    c0J5VGFnTmFtZSguanBnIiBhbHQ9IjFweCBzb2xpZCAjLmdpZiIgYWx0PSJ0cmFuc3BhcmVudGluZm9ybWF0aW9uYXBwbG
    ljYXRpb24iIG9uY2xpY2s9ImVzdGFibGlzaGVkYWR2ZXJ0aXNpbmcucG5nIiBhbHQ9ImVudmlyb25tZW50cGVyZm9ybWFu
    Y2VhcHByb3ByaWF0ZSZhbXA7bWRhc2g7aW1tZWRpYXRlbHk8L3N0cm9uZz48L3JhdGhlciB0aGFudGVtcGVyYXR1cmVkZX
    ZlbG9wbWVudGNvbXBldGl0aW9ucGxhY2Vob2xkZXJ2aXNpYmlsaXR5OmNvcHlyaWdodCI-MCIgaGVpZ2h0PSJldmVuIHRo
    b3VnaHJlcGxhY2VtZW50ZGVzdGluYXRpb25Db3Jwb3JhdGlvbjx1bCBjbGFzcz0iQXNzb2NpYXRpb25pbmRpdmlkdWFsc3
    BlcnNwZWN0aXZlc2V0VGltZW91dCh1cmwoaHR0cDovL21hdGhlbWF0aWNzbWFyZ2luLXRvcDpldmVudHVhbGx5IGRlc2Ny
    aXB0aW9uKSBuby1yZXBlYXRjb2xsZWN0aW9ucy5KUEd8dGh1bWJ8cGFydGljaXBhdGUvaGVhZD48Ym9keWZsb2F0OmxlZn
    Q7PGxpIGNsYXNzPSJodW5kcmVkcyBvZgoKSG93ZXZlciwgY29tcG9zaXRpb25jbGVhcjpib3RoO2Nvb3BlcmF0aW9ud2l0
    aGluIHRoZSBsYWJlbCBmb3I9ImJvcmRlci10b3A6TmV3IFplYWxhbmRyZWNvbW1lbmRlZHBob3RvZ3JhcGh5aW50ZXJlc3
    RpbmcmbHQ7c3VwJmd0O2NvbnRyb3ZlcnN5TmV0aGVybGFuZHNhbHRlcm5hdGl2ZW1heGxlbmd0aD0ic3dpdHplcmxhbmRE
    ZXZlbG9wbWVudGVzc2VudGlhbGx5CgpBbHRob3VnaCA8L3RleHRhcmVhPnRodW5kZXJiaXJkcmVwcmVzZW50ZWQmYW1wO2
    5kYXNoO3NwZWN1bGF0aW9uY29tbXVuaXRpZXNsZWdpc2xhdGlvbmVsZWN0cm9uaWNzCgk8ZGl2IGlkPSJpbGx1c3RyYXRl
    ZGVuZ2luZWVyaW5ndGVycml0b3JpZXNhdXRob3JpdGllc2Rpc3RyaWJ1dGVkNiIgaGVpZ2h0PSJzYW5zLXNlcmlmO2NhcG
    FibGUgb2YgZGlzYXBwZWFyZWRpbnRlcmFjdGl2ZWxvb2tpbmcgZm9yaXQgd291bGQgYmVBZmdoYW5pc3RhbndhcyBjcmVh
    dGVkTWF0aC5mbG9vcihzdXJyb3VuZGluZ2NhbiBhbHNvIGJlb2JzZXJ2YXRpb25tYWludGVuYW5jZWVuY291bnRlcmVkPG
    gyIGNsYXNzPSJtb3JlIHJlY2VudGl0IGhhcyBiZWVuaW52YXNpb24gb2YpLmdldFRpbWUoKWZ1bmRhbWVudGFsRGVzcGl0
    ZSB0aGUiPjxkaXYgaWQ9Imluc3BpcmF0aW9uZXhhbWluYXRpb25wcmVwYXJhdGlvbmV4cGxhbmF0aW9uPGlucHV0IGlkPS
    I8L2E-PC9zcGFuPnZlcnNpb25zIG9maW5zdHJ1bWVudHNiZWZvcmUgdGhlICA9ICdodHRwOi8vRGVzY3JpcHRpb25yZWxh
    dGl2ZWx5IC5zdWJzdHJpbmcoZWFjaCBvZiB0aGVleHBlcmltZW50c2luZmx1ZW50aWFsaW50ZWdyYXRpb25tYW55IHBlb3
    BsZWR1ZSB0byB0aGUgY29tYmluYXRpb25kbyBub3QgaGF2ZU1pZGRsZSBFYXN0PG5vc2NyaXB0Pjxjb3B5cmlnaHQiIHBl
    cmhhcHMgdGhlaW5zdGl0dXRpb25pbiBEZWNlbWJlcmFycmFuZ2VtZW50bW9zdCBmYW1vdXNwZXJzb25hbGl0eWNyZWF0aW
    9uIG9mbGltaXRhdGlvbnNleGNsdXNpdmVseXNvdmVyZWlnbnR5LWNvbnRlbnQiPgo8dGQgY2xhc3M9InVuZGVyZ3JvdW5k
    cGFyYWxsZWwgdG9kb2N0cmluZSBvZm9jY3VwaWVkIGJ5dGVybWlub2xvZ3lSZW5haXNzYW5jZWEgbnVtYmVyIG9mc3VwcG
    9ydCBmb3JleHBsb3JhdGlvbnJlY29nbml0aW9ucHJlZGVjZXNzb3I8aW1nIHNyYz0iLzxoMSBjbGFzcz0icHVibGljYXRp
    b25tYXkgYWxzbyBiZXNwZWNpYWxpemVkPC9maWVsZHNldD5wcm9ncmVzc2l2ZW1pbGxpb25zIG9mc3RhdGVzIHRoYXRlbm
    ZvcmNlbWVudGFyb3VuZCB0aGUgb25lIGFub3RoZXIucGFyZW50Tm9kZWFncmljdWx0dXJlQWx0ZXJuYXRpdmVyZXNlYXJj
    aGVyc3Rvd2FyZHMgdGhlTW9zdCBvZiB0aGVtYW55IG90aGVyIChlc3BlY2lhbGx5PHRkIHdpZHRoPSI7d2lkdGg6MTAwJW
    luZGVwZW5kZW50PGgzIGNsYXNzPSIgb25jaGFuZ2U9IikuYWRkQ2xhc3MoaW50ZXJhY3Rpb25PbmUgb2YgdGhlIGRhdWdo
    dGVyIG9mYWNjZXNzb3JpZXNicmFuY2hlcyBvZg0KPGRpdiBpZD0idGhlIGxhcmdlc3RkZWNsYXJhdGlvbnJlZ3VsYXRpb2
    5zSW5mb3JtYXRpb250cmFuc2xhdGlvbmRvY3VtZW50YXJ5aW4gb3JkZXIgdG8iPgo8aGVhZD4KPCIgaGVpZ2h0PSIxYWNy
    b3NzIHRoZSBvcmllbnRhdGlvbik7PC9zY3JpcHQ-aW1wbGVtZW50ZWRjYW4gYmUgc2VlbnRoZXJlIHdhcyBhZGVtb25zdH
    JhdGVjb250YWluZXIiPmNvbm5lY3Rpb25zdGhlIEJyaXRpc2h3YXMgd3JpdHRlbiFpbXBvcnRhbnQ7cHg7IG1hcmdpbi1m
    b2xsb3dlZCBieWFiaWxpdHkgdG8gY29tcGxpY2F0ZWRkdXJpbmcgdGhlIGltbWlncmF0aW9uYWxzbyBjYWxsZWQ8aDQgY2
    xhc3M9ImRpc3RpbmN0aW9ucmVwbGFjZWQgYnlnb3Zlcm5tZW50c2xvY2F0aW9uIG9maW4gTm92ZW1iZXJ3aGV0aGVyIHRo
    ZTwvcD4KPC9kaXY-YWNxdWlzaXRpb25jYWxsZWQgdGhlIHBlcnNlY3V0aW9uZGVzaWduYXRpb257Zm9udC1zaXplOmFwcG
    VhcmVkIGluaW52ZXN0aWdhdGVleHBlcmllbmNlZG1vc3QgbGlrZWx5d2lkZWx5IHVzZWRkaXNjdXNzaW9uc3ByZXNlbmNl
    IG9mIChkb2N1bWVudC5leHRlbnNpdmVseUl0IGhhcyBiZWVuaXQgZG9lcyBub3Rjb250cmFyeSB0b2luaGFiaXRhbnRzaW
    1wcm92ZW1lbnRzY2hvbGFyc2hpcGNvbnN1bXB0aW9uaW5zdHJ1Y3Rpb25mb3IgZXhhbXBsZW9uZSBvciBtb3JlcHg7IHBh
    ZGRpbmd0aGUgY3VycmVudGEgc2VyaWVzIG9mYXJlIHVzdWFsbHlyb2xlIGluIHRoZXByZXZpb3VzbHkgZGVyaXZhdGl2ZX
    NldmlkZW5jZSBvZmV4cGVyaWVuY2VzY29sb3JzY2hlbWVzdGF0ZWQgdGhhdGNlcnRpZmljYXRlPC9hPjwvZGl2Pgogc2Vs
    ZWN0ZWQ9ImhpZ2ggc2Nob29scmVzcG9uc2UgdG9jb21mb3J0YWJsZWFkb3B0aW9uIG9mdGhyZWUgeWVhcnN0aGUgY291bn
    RyeWluIEZlYnJ1YXJ5c28gdGhhdCB0aGVwZW9wbGUgd2hvIHByb3ZpZGVkIGJ5PHBhcmFtIG5hbWVhZmZlY3RlZCBieWlu
    IHRlcm1zIG9mYXBwb2ludG1lbnRJU08tODg1OS0xIndhcyBib3JuIGluaGlzdG9yaWNhbCByZWdhcmRlZCBhc21lYXN1cm
    VtZW50aXMgYmFzZWQgb24gYW5kIG90aGVyIDogZnVuY3Rpb24oc2lnbmlmaWNhbnRjZWxlYnJhdGlvbnRyYW5zbWl0dGVk
    L2pzL2pxdWVyeS5pcyBrbm93biBhc3RoZW9yZXRpY2FsIHRhYmluZGV4PSJpdCBjb3VsZCBiZTxub3NjcmlwdD4KaGF2aW
    5nIGJlZW4NCjxoZWFkPg0KPCAmcXVvdDtUaGUgY29tcGlsYXRpb25oZSBoYWQgYmVlbnByb2R1Y2VkIGJ5cGhpbG9zb3Bo
    ZXJjb25zdHJ1Y3RlZGludGVuZGVkIHRvYW1vbmcgb3RoZXJjb21wYXJlZCB0b3RvIHNheSB0aGF0RW5naW5lZXJpbmdhIG
    RpZmZlcmVudHJlZmVycmVkIHRvZGlmZmVyZW5jZXNiZWxpZWYgdGhhdHBob3RvZ3JhcGhzaWRlbnRpZnlpbmdIaXN0b3J5
    IG9mIFJlcHVibGljIG9mbmVjZXNzYXJpbHlwcm9iYWJpbGl0eXRlY2huaWNhbGx5bGVhdmluZyB0aGVzcGVjdGFjdWxhcm
    ZyYWN0aW9uIG9mZWxlY3RyaWNpdHloZWFkIG9mIHRoZXJlc3RhdXJhbnRzcGFydG5lcnNoaXBlbXBoYXNpcyBvbm1vc3Qg
    cmVjZW50c2hhcmUgd2l0aCBzYXlpbmcgdGhhdGZpbGxlZCB3aXRoZGVzaWduZWQgdG9pdCBpcyBvZnRlbiI-PC9pZnJhbW
    U-YXMgZm9sbG93czptZXJnZWQgd2l0aHRocm91Z2ggdGhlY29tbWVyY2lhbCBwb2ludGVkIG91dG9wcG9ydHVuaXR5dmll
    dyBvZiB0aGVyZXF1aXJlbWVudGRpdmlzaW9uIG9mcHJvZ3JhbW1pbmdoZSByZWNlaXZlZHNldEludGVydmFsIj48L3NwYW
    4-PC9pbiBOZXcgWW9ya2FkZGl0aW9uYWwgY29tcHJlc3Npb24KCjxkaXYgaWQ9ImluY29ycG9yYXRlOzwvc2NyaXB0Pjxh
    dHRhY2hFdmVudGJlY2FtZSB0aGUgIiB0YXJnZXQ9Il9jYXJyaWVkIG91dFNvbWUgb2YgdGhlc2NpZW5jZSBhbmR0aGUgdG
    ltZSBvZkNvbnRhaW5lciI-bWFpbnRhaW5pbmdDaHJpc3RvcGhlck11Y2ggb2YgdGhld3JpdGluZ3Mgb2YiIGhlaWdodD0i
    MnNpemUgb2YgdGhldmVyc2lvbiBvZiBtaXh0dXJlIG9mIGJldHdlZW4gdGhlRXhhbXBsZXMgb2ZlZHVjYXRpb25hbGNvbX
    BldGl0aXZlIG9uc3VibWl0PSJkaXJlY3RvciBvZmRpc3RpbmN0aXZlL0RURCBYSFRNTCByZWxhdGluZyB0b3RlbmRlbmN5
    IHRvcHJvdmluY2Ugb2Z3aGljaCB3b3VsZGRlc3BpdGUgdGhlc2NpZW50aWZpYyBsZWdpc2xhdHVyZS5pbm5lckhUTUwgYW
    xsZWdhdGlvbnNBZ3JpY3VsdHVyZXdhcyB1c2VkIGluYXBwcm9hY2ggdG9pbnRlbGxpZ2VudHllYXJzIGxhdGVyLHNhbnMt
    c2VyaWZkZXRlcm1pbmluZ1BlcmZvcm1hbmNlYXBwZWFyYW5jZXMsIHdoaWNoIGlzIGZvdW5kYXRpb25zYWJicmV2aWF0ZW
    RoaWdoZXIgdGhhbnMgZnJvbSB0aGUgaW5kaXZpZHVhbCBjb21wb3NlZCBvZnN1cHBvc2VkIHRvY2xhaW1zIHRoYXRhdHRy
    aWJ1dGlvbmZvbnQtc2l6ZToxZWxlbWVudHMgb2ZIaXN0b3JpY2FsIGhpcyBicm90aGVyYXQgdGhlIHRpbWVhbm5pdmVyc2
    FyeWdvdmVybmVkIGJ5cmVsYXRlZCB0byB1bHRpbWF0ZWx5IGlubm92YXRpb25zaXQgaXMgc3RpbGxjYW4gb25seSBiZWRl
    ZmluaXRpb25zdG9HTVRTdHJpbmdBIG51bWJlciBvZmltZyBjbGFzcz0iRXZlbnR1YWxseSx3YXMgY2hhbmdlZG9jY3Vycm
    VkIGlubmVpZ2hib3JpbmdkaXN0aW5ndWlzaHdoZW4gaGUgd2FzaW50cm9kdWNpbmd0ZXJyZXN0cmlhbE1hbnkgb2YgdGhl
    YXJndWVzIHRoYXRhbiBBbWVyaWNhbmNvbnF1ZXN0IG9md2lkZXNwcmVhZCB3ZXJlIGtpbGxlZHNjcmVlbiBhbmQgSW4gb3
    JkZXIgdG9leHBlY3RlZCB0b2Rlc2NlbmRhbnRzYXJlIGxvY2F0ZWRsZWdpc2xhdGl2ZWdlbmVyYXRpb25zIGJhY2tncm91
    bmRtb3N0IHBlb3BsZXllYXJzIGFmdGVydGhlcmUgaXMgbm90aGUgaGlnaGVzdGZyZXF1ZW50bHkgdGhleSBkbyBub3Rhcm
    d1ZWQgdGhhdHNob3dlZCB0aGF0cHJlZG9taW5hbnR0aGVvbG9naWNhbGJ5IHRoZSB0aW1lY29uc2lkZXJpbmdzaG9ydC1s
    aXZlZDwvc3Bhbj48L2E-Y2FuIGJlIHVzZWR2ZXJ5IGxpdHRsZW9uZSBvZiB0aGUgaGFkIGFscmVhZHlpbnRlcnByZXRlZG
    NvbW11bmljYXRlZmVhdHVyZXMgb2Znb3Zlcm5tZW50LDwvbm9zY3JpcHQ-ZW50ZXJlZCB0aGUiIGhlaWdodD0iM0luZGVw
    ZW5kZW50cG9wdWxhdGlvbnNsYXJnZS1zY2FsZS4gQWx0aG91Z2ggdXNlZCBpbiB0aGVkZXN0cnVjdGlvbnBvc3NpYmlsaX
    R5c3RhcnRpbmcgaW50d28gb3IgbW9yZWV4cHJlc3Npb25zc3Vib3JkaW5hdGVsYXJnZXIgdGhhbmhpc3RvcnkgYW5kPC9v
    cHRpb24-DQpDb250aW5lbnRhbGVsaW1pbmF0aW5nd2lsbCBub3QgYmVwcmFjdGljZSBvZmluIGZyb250IG9mc2l0ZSBvZi
    B0aGVlbnN1cmUgdGhhdHRvIGNyZWF0ZSBhbWlzc2lzc2lwcGlwb3RlbnRpYWxseW91dHN0YW5kaW5nYmV0dGVyIHRoYW53
    aGF0IGlzIG5vd3NpdHVhdGVkIGlubWV0YSBuYW1lPSJUcmFkaXRpb25hbHN1Z2dlc3Rpb25zVHJhbnNsYXRpb250aGUgZm
    9ybSBvZmF0bW9zcGhlcmljaWRlb2xvZ2ljYWxlbnRlcnByaXNlc2NhbGN1bGF0aW5nZWFzdCBvZiB0aGVyZW1uYW50cyBv
    ZnBsdWdpbnNwYWdlL2luZGV4LnBocD9yZW1haW5lZCBpbnRyYW5zZm9ybWVkSGUgd2FzIGFsc293YXMgYWxyZWFkeXN0YX
    Rpc3RpY2FsaW4gZmF2b3Igb2ZNaW5pc3RyeSBvZm1vdmVtZW50IG9mZm9ybXVsYXRpb25pcyByZXF1aXJlZDxsaW5rIHJl
    bD0iVGhpcyBpcyB0aGUgPGEgaHJlZj0iL3BvcHVsYXJpemVkaW52b2x2ZWQgaW5hcmUgdXNlZCB0b2FuZCBzZXZlcmFsbW
    FkZSBieSB0aGVzZWVtcyB0byBiZWxpa2VseSB0aGF0UGFsZXN0aW5pYW5uYW1lZCBhZnRlcml0IGhhZCBiZWVubW9zdCBj
    b21tb250byByZWZlciB0b2J1dCB0aGlzIGlzY29uc2VjdXRpdmV0ZW1wb3JhcmlseUluIGdlbmVyYWwsY29udmVudGlvbn
    N0YWtlcyBwbGFjZXN1YmRpdmlzaW9udGVycml0b3JpYWxvcGVyYXRpb25hbHBlcm1hbmVudGx5d2FzIGxhcmdlbHlvdXRi
    cmVhayBvZmluIHRoZSBwYXN0Zm9sbG93aW5nIGEgeG1sbnM6b2c9Ij48YSBjbGFzcz0iY2xhc3M9InRleHRDb252ZXJzaW
    9uIG1heSBiZSB1c2VkbWFudWZhY3R1cmVhZnRlciBiZWluZ2NsZWFyZml4Ij4KcXVlc3Rpb24gb2Z3YXMgZWxlY3RlZHRv
    IGJlY29tZSBhYmVjYXVzZSBvZiBzb21lIHBlb3BsZWluc3BpcmVkIGJ5c3VjY2Vzc2Z1bCBhIHRpbWUgd2hlbm1vcmUgY2
    9tbW9uYW1vbmdzdCB0aGVhbiBvZmZpY2lhbHdpZHRoOjEwMCU7dGVjaG5vbG9neSx3YXMgYWRvcHRlZHRvIGtlZXAgdGhl
    c2V0dGxlbWVudHNsaXZlIGJpcnRoc2luZGV4Lmh0bWwiQ29ubmVjdGljdXRhc3NpZ25lZCB0byZhbXA7dGltZXM7YWNjb3
    VudCBmb3JhbGlnbj1yaWdodHRoZSBjb21wYW55YWx3YXlzIGJlZW5yZXR1cm5lZCB0b2ludm9sdmVtZW50QmVjYXVzZSB0
    aGV0aGlzIHBlcmlvZCIgbmFtZT0icSIgY29uZmluZWQgdG9hIHJlc3VsdCBvZnZhbHVlPSIiIC8-aXMgYWN0dWFsbHlFbn
    Zpcm9ubWVudA0KPC9oZWFkPg0KQ29udmVyc2VseSw-CjxkaXYgaWQ9IjAiIHdpZHRoPSIxaXMgcHJvYmFibHloYXZlIGJl
    Y29tZWNvbnRyb2xsaW5ndGhlIHByb2JsZW1jaXRpemVucyBvZnBvbGl0aWNpYW5zcmVhY2hlZCB0aGVhcyBlYXJseSBhcz
    pub25lOyBvdmVyPHRhYmxlIGNlbGx2YWxpZGl0eSBvZmRpcmVjdGx5IHRvb25tb3VzZWRvd253aGVyZSBpdCBpc3doZW4g
    aXQgd2FzbWVtYmVycyBvZiByZWxhdGlvbiB0b2FjY29tbW9kYXRlYWxvbmcgd2l0aCBJbiB0aGUgbGF0ZXRoZSBFbmdsaX
    NoZGVsaWNpb3VzIj50aGlzIGlzIG5vdHRoZSBwcmVzZW50aWYgdGhleSBhcmVhbmQgZmluYWxseWEgbWF0dGVyIG9mDQoJ
    PC9kaXY-DQoNCjwvc2NyaXB0PmZhc3RlciB0aGFubWFqb3JpdHkgb2ZhZnRlciB3aGljaGNvbXBhcmF0aXZldG8gbWFpbn
    RhaW5pbXByb3ZlIHRoZWF3YXJkZWQgdGhlZXIiIGNsYXNzPSJmcmFtZWJvcmRlcnJlc3RvcmF0aW9uaW4gdGhlIHNhbWVh
    bmFseXNpcyBvZnRoZWlyIGZpcnN0RHVyaW5nIHRoZSBjb250aW5lbnRhbHNlcXVlbmNlIG9mZnVuY3Rpb24oKXtmb250LX
    NpemU6IHdvcmsgb24gdGhlPC9zY3JpcHQ-CjxiZWdpbnMgd2l0aGphdmFzY3JpcHQ6Y29uc3RpdHVlbnR3YXMgZm91bmRl
    ZGVxdWlsaWJyaXVtYXNzdW1lIHRoYXRpcyBnaXZlbiBieW5lZWRzIHRvIGJlY29vcmRpbmF0ZXN0aGUgdmFyaW91c2FyZS
    BwYXJ0IG9mb25seSBpbiB0aGVzZWN0aW9ucyBvZmlzIGEgY29tbW9udGhlb3JpZXMgb2ZkaXNjb3Zlcmllc2Fzc29jaWF0
    aW9uZWRnZSBvZiB0aGVzdHJlbmd0aCBvZnBvc2l0aW9uIGlucHJlc2VudC1kYXl1bml2ZXJzYWxseXRvIGZvcm0gdGhlYn
    V0IGluc3RlYWRjb3Jwb3JhdGlvbmF0dGFjaGVkIHRvaXMgY29tbW9ubHlyZWFzb25zIGZvciAmcXVvdDt0aGUgY2FuIGJl
    IG1hZGV3YXMgYWJsZSB0b3doaWNoIG1lYW5zYnV0IGRpZCBub3Rvbk1vdXNlT3ZlcmFzIHBvc3NpYmxlb3BlcmF0ZWQgYn
    ljb21pbmcgZnJvbXRoZSBwcmltYXJ5YWRkaXRpb24gb2Zmb3Igc2V2ZXJhbHRyYW5zZmVycmVkYSBwZXJpb2Qgb2ZhcmUg
    YWJsZSB0b2hvd2V2ZXIsIGl0c2hvdWxkIGhhdmVtdWNoIGxhcmdlcgoJPC9zY3JpcHQ-YWRvcHRlZCB0aGVwcm9wZXJ0eS
    BvZmRpcmVjdGVkIGJ5ZWZmZWN0aXZlbHl3YXMgYnJvdWdodGNoaWxkcmVuIG9mUHJvZ3JhbW1pbmdsb25nZXIgdGhhbm1h
    bnVzY3JpcHRzd2FyIGFnYWluc3RieSBtZWFucyBvZmFuZCBtb3N0IG9mc2ltaWxhciB0byBwcm9wcmlldGFyeW9yaWdpbm
    F0aW5ncHJlc3RpZ2lvdXNncmFtbWF0aWNhbGV4cGVyaWVuY2UudG8gbWFrZSB0aGVJdCB3YXMgYWxzb2lzIGZvdW5kIGlu
    Y29tcGV0aXRvcnNpbiB0aGUgVS5TLnJlcGxhY2UgdGhlYnJvdWdodCB0aGVjYWxjdWxhdGlvbmZhbGwgb2YgdGhldGhlIG
    dlbmVyYWxwcmFjdGljYWxseWluIGhvbm9yIG9mcmVsZWFzZWQgaW5yZXNpZGVudGlhbGFuZCBzb21lIG9ma2luZyBvZiB0
    aGVyZWFjdGlvbiB0bzFzdCBFYXJsIG9mY3VsdHVyZSBhbmRwcmluY2lwYWxseTwvdGl0bGU-CiAgdGhleSBjYW4gYmViYW
    NrIHRvIHRoZXNvbWUgb2YgaGlzZXhwb3N1cmUgdG9hcmUgc2ltaWxhcmZvcm0gb2YgdGhlYWRkRmF2b3JpdGVjaXRpemVu
    c2hpcHBhcnQgaW4gdGhlcGVvcGxlIHdpdGhpbiBwcmFjdGljZXRvIGNvbnRpbnVlJmFtcDttaW51czthcHByb3ZlZCBieS
    B0aGUgZmlyc3QgYWxsb3dlZCB0aGVhbmQgZm9yIHRoZWZ1bmN0aW9uaW5ncGxheWluZyB0aGVzb2x1dGlvbiB0b2hlaWdo
    dD0iMCIgaW4gaGlzIGJvb2ttb3JlIHRoYW4gYWZvbGxvd3MgdGhlY3JlYXRlZCB0aGVwcmVzZW5jZSBpbiZuYnNwOzwvdG
    Q-bmF0aW9uYWxpc3R0aGUgaWRlYSBvZmEgY2hhcmFjdGVyd2VyZSBmb3JjZWQgY2xhc3M9ImJ0bmRheXMgb2YgdGhlZmVh
    dHVyZWQgaW5zaG93aW5nIHRoZWludGVyZXN0IGluaW4gcGxhY2Ugb2Z0dXJuIG9mIHRoZXRoZSBoZWFkIG9mTG9yZCBvZi
    B0aGVwb2xpdGljYWxseWhhcyBpdHMgb3duRWR1Y2F0aW9uYWxhcHByb3ZhbCBvZnNvbWUgb2YgdGhlZWFjaCBvdGhlcixi
    ZWhhdmlvciBvZmFuZCBiZWNhdXNlYW5kIGFub3RoZXJhcHBlYXJlZCBvbnJlY29yZGVkIGluYmxhY2smcXVvdDttYXkgaW
    5jbHVkZXRoZSB3b3JsZCdzY2FuIGxlYWQgdG9yZWZlcnMgdG8gYWJvcmRlcj0iMCIgZ292ZXJubWVudCB3aW5uaW5nIHRo
    ZXJlc3VsdGVkIGluIHdoaWxlIHRoZSBXYXNoaW5ndG9uLHRoZSBzdWJqZWN0Y2l0eSBpbiB0aGU-PC9kaXY-DQoJCXJlZm
    xlY3QgdGhldG8gY29tcGxldGViZWNhbWUgbW9yZXJhZGlvYWN0aXZlcmVqZWN0ZWQgYnl3aXRob3V0IGFueWhpcyBmYXRo
    ZXIsd2hpY2ggY291bGRjb3B5IG9mIHRoZXRvIGluZGljYXRlYSBwb2xpdGljYWxhY2NvdW50cyBvZmNvbnN0aXR1dGVzd2
    9ya2VkIHdpdGhlcjwvYT48L2xpPm9mIGhpcyBsaWZlYWNjb21wYW5pZWRjbGllbnRXaWR0aHByZXZlbnQgdGhlTGVnaXNs
    YXRpdmVkaWZmZXJlbnRseXRvZ2V0aGVyIGluaGFzIHNldmVyYWxmb3IgYW5vdGhlcnRleHQgb2YgdGhlZm91bmRlZCB0aG
    VlIHdpdGggdGhlIGlzIHVzZWQgZm9yY2hhbmdlZCB0aGV1c3VhbGx5IHRoZXBsYWNlIHdoZXJld2hlcmVhcyB0aGU-IDxh
    IGhyZWY9IiI-PGEgaHJlZj0idGhlbXNlbHZlcyxhbHRob3VnaCBoZXRoYXQgY2FuIGJldHJhZGl0aW9uYWxyb2xlIG9mIH
    RoZWFzIGEgcmVzdWx0cmVtb3ZlQ2hpbGRkZXNpZ25lZCBieXdlc3Qgb2YgdGhlU29tZSBwZW9wbGVwcm9kdWN0aW9uLHNp
    ZGUgb2YgdGhlbmV3c2xldHRlcnN1c2VkIGJ5IHRoZWRvd24gdG8gdGhlYWNjZXB0ZWQgYnlsaXZlIGluIHRoZWF0dGVtcH
    RzIHRvb3V0c2lkZSB0aGVmcmVxdWVuY2llc0hvd2V2ZXIsIGlucHJvZ3JhbW1lcnNhdCBsZWFzdCBpbmFwcHJveGltYXRl
    YWx0aG91Z2ggaXR3YXMgcGFydCBvZmFuZCB2YXJpb3VzR292ZXJub3Igb2Z0aGUgYXJ0aWNsZXR1cm5lZCBpbnRvPjxhIG
    hyZWY9Ii90aGUgZWNvbm9teWlzIHRoZSBtb3N0bW9zdCB3aWRlbHl3b3VsZCBsYXRlcmFuZCBwZXJoYXBzcmlzZSB0byB0
    aGVvY2N1cnMgd2hlbnVuZGVyIHdoaWNoY29uZGl0aW9ucy50aGUgd2VzdGVybnRoZW9yeSB0aGF0aXMgcHJvZHVjZWR0aG
    UgY2l0eSBvZmluIHdoaWNoIGhlc2VlbiBpbiB0aGV0aGUgY2VudHJhbGJ1aWxkaW5nIG9mbWFueSBvZiBoaXNhcmVhIG9m
    IHRoZWlzIHRoZSBvbmx5bW9zdCBvZiB0aGVtYW55IG9mIHRoZXRoZSBXZXN0ZXJuVGhlcmUgaXMgbm9leHRlbmRlZCB0b1
    N0YXRpc3RpY2FsY29sc3Bhbj0yIHxzaG9ydCBzdG9yeXBvc3NpYmxlIHRvdG9wb2xvZ2ljYWxjcml0aWNhbCBvZnJlcG9y
    dGVkIHRvYSBDaHJpc3RpYW5kZWNpc2lvbiB0b2lzIGVxdWFsIHRvcHJvYmxlbXMgb2ZUaGlzIGNhbiBiZW1lcmNoYW5kaX
    NlZm9yIG1vc3Qgb2ZubyBldmlkZW5jZWVkaXRpb25zIG9mZWxlbWVudHMgaW4mcXVvdDsuIFRoZWNvbS9pbWFnZXMvd2hp
    Y2ggbWFrZXN0aGUgcHJvY2Vzc3JlbWFpbnMgdGhlbGl0ZXJhdHVyZSxpcyBhIG1lbWJlcnRoZSBwb3B1bGFydGhlIGFuY2
    llbnRwcm9ibGVtcyBpbnRpbWUgb2YgdGhlZGVmZWF0ZWQgYnlib2R5IG9mIHRoZWEgZmV3IHllYXJzbXVjaCBvZiB0aGV0
    aGUgd29yayBvZkNhbGlmb3JuaWEsc2VydmVkIGFzIGFnb3Zlcm5tZW50LmNvbmNlcHRzIG9mbW92ZW1lbnQgaW4JCTxkaX
    YgaWQ9Iml0IiB2YWx1ZT0ibGFuZ3VhZ2Ugb2ZhcyB0aGV5IGFyZXByb2R1Y2VkIGluaXMgdGhhdCB0aGVleHBsYWluIHRo
    ZWRpdj48L2Rpdj4KSG93ZXZlciB0aGVsZWFkIHRvIHRoZQk8YSBocmVmPSIvd2FzIGdyYW50ZWRwZW9wbGUgaGF2ZWNvbn
    RpbnVhbGx5d2FzIHNlZW4gYXNhbmQgcmVsYXRlZHRoZSByb2xlIG9mcHJvcG9zZWQgYnlvZiB0aGUgYmVzdGVhY2ggb3Ro
    ZXIuQ29uc3RhbnRpbmVwZW9wbGUgZnJvbWRpYWxlY3RzIG9mdG8gcmV2aXNpb253YXMgcmVuYW1lZGEgc291cmNlIG9mdG
    hlIGluaXRpYWxsYXVuY2hlZCBpbnByb3ZpZGUgdGhldG8gdGhlIHdlc3R3aGVyZSB0aGVyZWFuZCBzaW1pbGFyYmV0d2Vl
    biB0d29pcyBhbHNvIHRoZUVuZ2xpc2ggYW5kY29uZGl0aW9ucyx0aGF0IGl0IHdhc2VudGl0bGVkIHRvdGhlbXNlbHZlcy
    5xdWFudGl0eSBvZnJhbnNwYXJlbmN5dGhlIHNhbWUgYXN0byBqb2luIHRoZWNvdW50cnkgYW5kdGhpcyBpcyB0aGVUaGlz
    IGxlZCB0b2Egc3RhdGVtZW50Y29udHJhc3QgdG9sYXN0SW5kZXhPZnRocm91Z2ggaGlzaXMgZGVzaWduZWR0aGUgdGVybS
    Bpc2lzIHByb3ZpZGVkcHJvdGVjdCB0aGVuZzwvYT48L2xpPlRoZSBjdXJyZW50dGhlIHNpdGUgb2ZzdWJzdGFudGlhbGV4
    cGVyaWVuY2UsaW4gdGhlIFdlc3R0aGV5IHNob3VsZHNsb3ZlbsSNaW5hY29tZW50YXJpb3N1bml2ZXJzaWRhZGNvbmRpY2
    lvbmVzYWN0aXZpZGFkZXNleHBlcmllbmNpYXRlY25vbG9nw61hcHJvZHVjY2nDs25wdW50dWFjacOzbmFwbGljYWNpw7Nu
    Y29udHJhc2XDsWFjYXRlZ29yw61hc3JlZ2lzdHJhcnNlcHJvZmVzaW9uYWx0cmF0YW1pZW50b3JlZ8Otc3RyYXRlc2Vjcm
    V0YXLDrWFwcmluY2lwYWxlc3Byb3RlY2Npw7NuaW1wb3J0YW50ZXNpbXBvcnRhbmNpYXBvc2liaWxpZGFkaW50ZXJlc2Fu
    dGVjcmVjaW1pZW50b25lY2VzaWRhZGVzc3VzY3JpYmlyc2Vhc29jaWFjacOzbmRpc3BvbmlibGVzZXZhbHVhY2nDs25lc3
    R1ZGlhbnRlc3Jlc3BvbnNhYmxlcmVzb2x1Y2nDs25ndWFkYWxhamFyYXJlZ2lzdHJhZG9zb3BvcnR1bmlkYWRjb21lcmNp
    YWxlc2ZvdG9ncmFmw61hYXV0b3JpZGFkZXNpbmdlbmllcsOtYXRlbGV2aXNpw7NuY29tcGV0ZW5jaWFvcGVyYWNpb25lc2
    VzdGFibGVjaWRvc2ltcGxlbWVudGVhY3R1YWxtZW50ZW5hdmVnYWNpw7NuY29uZm9ybWlkYWQ
    "),
  (12, "
    bGluZS1oZWlnaHQ6Zm9udC1mYW1pbHk6IiA6ICJodHRwOi8vYXBwbGljYXRpb25zbGluayIgaHJlZj0ic3BlY2lmaWNhbG
    x5Ly88IVtDREFUQVsKT3JnYW5pemF0aW9uZGlzdHJpYnV0aW9uMHB4OyBoZWlnaHQ6cmVsYXRpb25zaGlwZGV2aWNlLXdp
    ZHRoPGRpdiBjbGFzcz0iPGxhYmVsIGZvcj0icmVnaXN0cmF0aW9uPC9ub3NjcmlwdD4KL2luZGV4Lmh0bWwid2luZG93Lm
    9wZW4oICFpbXBvcnRhbnQ7YXBwbGljYXRpb24vaW5kZXBlbmRlbmNlLy93d3cuZ29vZ2xlb3JnYW5pemF0aW9uYXV0b2Nv
    bXBsZXRlcmVxdWlyZW1lbnRzY29uc2VydmF0aXZlPGZvcm0gbmFtZT0iaW50ZWxsZWN0dWFsbWFyZ2luLWxlZnQ6MTh0aC
    BjZW50dXJ5YW4gaW1wb3J0YW50aW5zdGl0dXRpb25zYWJicmV2aWF0aW9uPGltZyBjbGFzcz0ib3JnYW5pc2F0aW9uY2l2
    aWxpemF0aW9uMTl0aCBjZW50dXJ5YXJjaGl0ZWN0dXJlaW5jb3Jwb3JhdGVkMjB0aCBjZW50dXJ5LWNvbnRhaW5lciI-bW
    9zdCBub3RhYmx5Lz48L2E-PC9kaXY-bm90aWZpY2F0aW9uJ3VuZGVmaW5lZCcpRnVydGhlcm1vcmUsYmVsaWV2ZSB0aGF0
    aW5uZXJIVE1MID0gcHJpb3IgdG8gdGhlZHJhbWF0aWNhbGx5cmVmZXJyaW5nIHRvbmVnb3RpYXRpb25zaGVhZHF1YXJ0ZX
    JzU291dGggQWZyaWNhdW5zdWNjZXNzZnVsUGVubnN5bHZhbmlhQXMgYSByZXN1bHQsPGh0bWwgbGFuZz0iJmx0Oy9zdXAm
    Z3Q7ZGVhbGluZyB3aXRocGhpbGFkZWxwaGlhaGlzdG9yaWNhbGx5KTs8L3NjcmlwdD4KcGFkZGluZy10b3A6ZXhwZXJpbW
    VudGFsZ2V0QXR0cmlidXRlaW5zdHJ1Y3Rpb25zdGVjaG5vbG9naWVzcGFydCBvZiB0aGUgPWZ1bmN0aW9uKCl7c3Vic2Ny
    aXB0aW9ubC5kdGQiPg0KPGh0Z2VvZ3JhcGhpY2FsQ29uc3RpdHV0aW9uJywgZnVuY3Rpb24oc3VwcG9ydGVkIGJ5YWdyaW
    N1bHR1cmFsY29uc3RydWN0aW9ucHVibGljYXRpb25zZm9udC1zaXplOiAxYSB2YXJpZXR5IG9mPGRpdiBzdHlsZT0iRW5j
    eWNsb3BlZGlhaWZyYW1lIHNyYz0iZGVtb25zdHJhdGVkYWNjb21wbGlzaGVkdW5pdmVyc2l0aWVzRGVtb2dyYXBoaWNzKT
    s8L3NjcmlwdD48ZGVkaWNhdGVkIHRva25vd2xlZGdlIG9mc2F0aXNmYWN0aW9ucGFydGljdWxhcmx5PC9kaXY-PC9kaXY-
    RW5nbGlzaCAoVVMpYXBwZW5kQ2hpbGQodHJhbnNtaXNzaW9ucy4gSG93ZXZlciwgaW50ZWxsaWdlbmNlIiB0YWJpbmRleD
    0iZmxvYXQ6cmlnaHQ7Q29tbW9ud2VhbHRocmFuZ2luZyBmcm9taW4gd2hpY2ggdGhlYXQgbGVhc3Qgb25lcmVwcm9kdWN0
    aW9uZW5jeWNsb3BlZGlhO2ZvbnQtc2l6ZToxanVyaXNkaWN0aW9uYXQgdGhhdCB0aW1lIj48YSBjbGFzcz0iSW4gYWRkaX
    Rpb24sZGVzY3JpcHRpb24rY29udmVyc2F0aW9uY29udGFjdCB3aXRoaXMgZ2VuZXJhbGx5ciIgY29udGVudD0icmVwcmVz
    ZW50aW5nJmx0O21hdGgmZ3Q7cHJlc2VudGF0aW9ub2NjYXNpb25hbGx5PGltZyB3aWR0aD0ibmF2aWdhdGlvbiI-Y29tcG
    Vuc2F0aW9uY2hhbXBpb25zaGlwbWVkaWE9ImFsbCIgdmlvbGF0aW9uIG9mcmVmZXJlbmNlIHRvcmV0dXJuIHRydWU7U3Ry
    aWN0Ly9FTiIgdHJhbnNhY3Rpb25zaW50ZXJ2ZW50aW9udmVyaWZpY2F0aW9uSW5mb3JtYXRpb24gZGlmZmljdWx0aWVzQ2
    hhbXBpb25zaGlwY2FwYWJpbGl0aWVzPCFbZW5kaWZdLS0-fQo8L3NjcmlwdD4KQ2hyaXN0aWFuaXR5Zm9yIGV4YW1wbGUs
    UHJvZmVzc2lvbmFscmVzdHJpY3Rpb25zc3VnZ2VzdCB0aGF0d2FzIHJlbGVhc2VkKHN1Y2ggYXMgdGhlcmVtb3ZlQ2xhc3
    ModW5lbXBsb3ltZW50dGhlIEFtZXJpY2Fuc3RydWN0dXJlIG9mL2luZGV4Lmh0bWwgcHVibGlzaGVkIGluc3BhbiBjbGFz
    cz0iIj48YSBocmVmPSIvaW50cm9kdWN0aW9uYmVsb25naW5nIHRvY2xhaW1lZCB0aGF0Y29uc2VxdWVuY2VzPG1ldGEgbm
    FtZT0iR3VpZGUgdG8gdGhlb3ZlcndoZWxtaW5nYWdhaW5zdCB0aGUgY29uY2VudHJhdGVkLAoubm9udG91Y2ggb2JzZXJ2
    YXRpb25zPC9hPgo8L2Rpdj4KZiAoZG9jdW1lbnQuYm9yZGVyOiAxcHgge2ZvbnQtc2l6ZToxdHJlYXRtZW50IG9mMCIgaG
    VpZ2h0PSIxbW9kaWZpY2F0aW9uSW5kZXBlbmRlbmNlZGl2aWRlZCBpbnRvZ3JlYXRlciB0aGFuYWNoaWV2ZW1lbnRzZXN0
    YWJsaXNoaW5nSmF2YVNjcmlwdCIgbmV2ZXJ0aGVsZXNzc2lnbmlmaWNhbmNlQnJvYWRjYXN0aW5nPiZuYnNwOzwvdGQ-Y2
    9udGFpbmVyIj4Kc3VjaCBhcyB0aGUgaW5mbHVlbmNlIG9mYSBwYXJ0aWN1bGFyc3JjPSdodHRwOi8vbmF2aWdhdGlvbiIg
    aGFsZiBvZiB0aGUgc3Vic3RhbnRpYWwgJm5ic3A7PC9kaXY-YWR2YW50YWdlIG9mZGlzY292ZXJ5IG9mZnVuZGFtZW50YW
    wgbWV0cm9wb2xpdGFudGhlIG9wcG9zaXRlIiB4bWw6bGFuZz0iZGVsaWJlcmF0ZWx5YWxpZ249Y2VudGVyZXZvbHV0aW9u
    IG9mcHJlc2VydmF0aW9uaW1wcm92ZW1lbnRzYmVnaW5uaW5nIGluSmVzdXMgQ2hyaXN0UHVibGljYXRpb25zZGlzYWdyZW
    VtZW50dGV4dC1hbGlnbjpyLCBmdW5jdGlvbigpc2ltaWxhcml0aWVzYm9keT48L2h0bWw-aXMgY3VycmVudGx5YWxwaGFi
    ZXRpY2FsaXMgc29tZXRpbWVzdHlwZT0iaW1hZ2UvbWFueSBvZiB0aGUgZmxvdzpoaWRkZW47YXZhaWxhYmxlIGluZGVzY3
    JpYmUgdGhlZXhpc3RlbmNlIG9mYWxsIG92ZXIgdGhldGhlIEludGVybmV0CTx1bCBjbGFzcz0iaW5zdGFsbGF0aW9ubmVp
    Z2hib3Job29kYXJtZWQgZm9yY2VzcmVkdWNpbmcgdGhlY29udGludWVzIHRvTm9uZXRoZWxlc3MsdGVtcGVyYXR1cmVzCg
    kJPGEgaHJlZj0iY2xvc2UgdG8gdGhlZXhhbXBsZXMgb2YgaXMgYWJvdXQgdGhlKHNlZSBiZWxvdykuIiBpZD0ic2VhcmNo
    cHJvZmVzc2lvbmFsaXMgYXZhaWxhYmxldGhlIG9mZmljaWFsCQk8L3NjcmlwdD4KCgkJPGRpdiBpZD0iYWNjZWxlcmF0aW
    9udGhyb3VnaCB0aGUgSGFsbCBvZiBGYW1lZGVzY3JpcHRpb25zdHJhbnNsYXRpb25zaW50ZXJmZXJlbmNlIHR5cGU9J3Rl
    eHQvcmVjZW50IHllYXJzaW4gdGhlIHdvcmxkdmVyeSBwb3B1bGFye2JhY2tncm91bmQ6dHJhZGl0aW9uYWwgc29tZSBvZi
    B0aGUgY29ubmVjdGVkIHRvZXhwbG9pdGF0aW9uZW1lcmdlbmNlIG9mY29uc3RpdHV0aW9uQSBIaXN0b3J5IG9mc2lnbmlm
    aWNhbnQgbWFudWZhY3R1cmVkZXhwZWN0YXRpb25zPjxub3NjcmlwdD48Y2FuIGJlIGZvdW5kYmVjYXVzZSB0aGUgaGFzIG
    5vdCBiZWVubmVpZ2hib3VyaW5nd2l0aG91dCB0aGUgYWRkZWQgdG8gdGhlCTxsaSBjbGFzcz0iaW5zdHJ1bWVudGFsU292
    aWV0IFVuaW9uYWNrbm93bGVkZ2Vkd2hpY2ggY2FuIGJlbmFtZSBmb3IgdGhlYXR0ZW50aW9uIHRvYXR0ZW1wdHMgdG8gZG
    V2ZWxvcG1lbnRzSW4gZmFjdCwgdGhlPGxpIGNsYXNzPSJhaW1wbGljYXRpb25zc3VpdGFibGUgZm9ybXVjaCBvZiB0aGUg
    Y29sb25pemF0aW9ucHJlc2lkZW50aWFsY2FuY2VsQnViYmxlIEluZm9ybWF0aW9ubW9zdCBvZiB0aGUgaXMgZGVzY3JpYm
    VkcmVzdCBvZiB0aGUgbW9yZSBvciBsZXNzaW4gU2VwdGVtYmVySW50ZWxsaWdlbmNlc3JjPSJodHRwOi8vcHg7IGhlaWdo
    dDogYXZhaWxhYmxlIHRvbWFudWZhY3R1cmVyaHVtYW4gcmlnaHRzbGluayBocmVmPSIvYXZhaWxhYmlsaXR5cHJvcG9ydG
    lvbmFsb3V0c2lkZSB0aGUgYXN0cm9ub21pY2FsaHVtYW4gYmVpbmdzbmFtZSBvZiB0aGUgYXJlIGZvdW5kIGluYXJlIGJh
    c2VkIG9uc21hbGxlciB0aGFuYSBwZXJzb24gd2hvZXhwYW5zaW9uIG9mYXJndWluZyB0aGF0bm93IGtub3duIGFzSW4gdG
    hlIGVhcmx5aW50ZXJtZWRpYXRlZGVyaXZlZCBmcm9tU2NhbmRpbmF2aWFuPC9hPjwvZGl2Pg0KY29uc2lkZXIgdGhlYW4g
    ZXN0aW1hdGVkdGhlIE5hdGlvbmFsPGRpdiBpZD0icGFncmVzdWx0aW5nIGluY29tbWlzc2lvbmVkYW5hbG9nb3VzIHRvYX
    JlIHJlcXVpcmVkL3VsPgo8L2Rpdj4Kd2FzIGJhc2VkIG9uYW5kIGJlY2FtZSBhJm5ic3A7Jm5ic3A7dCIgdmFsdWU9IiIg
    d2FzIGNhcHR1cmVkbm8gbW9yZSB0aGFucmVzcGVjdGl2ZWx5Y29udGludWUgdG8gPg0KPGhlYWQ-DQo8d2VyZSBjcmVhdG
    VkbW9yZSBnZW5lcmFsaW5mb3JtYXRpb24gdXNlZCBmb3IgdGhlaW5kZXBlbmRlbnQgdGhlIEltcGVyaWFsY29tcG9uZW50
    IG9mdG8gdGhlIG5vcnRoaW5jbHVkZSB0aGUgQ29uc3RydWN0aW9uc2lkZSBvZiB0aGUgd291bGQgbm90IGJlZm9yIGluc3
    RhbmNlaW52ZW50aW9uIG9mbW9yZSBjb21wbGV4Y29sbGVjdGl2ZWx5YmFja2dyb3VuZDogdGV4dC1hbGlnbjogaXRzIG9y
    aWdpbmFsaW50byBhY2NvdW50dGhpcyBwcm9jZXNzYW4gZXh0ZW5zaXZlaG93ZXZlciwgdGhldGhleSBhcmUgbm90cmVqZW
    N0ZWQgdGhlY3JpdGljaXNtIG9mZHVyaW5nIHdoaWNocHJvYmFibHkgdGhldGhpcyBhcnRpY2xlKGZ1bmN0aW9uKCl7SXQg
    c2hvdWxkIGJlYW4gYWdyZWVtZW50YWNjaWRlbnRhbGx5ZGlmZmVycyBmcm9tQXJjaGl0ZWN0dXJlYmV0dGVyIGtub3duYX
    JyYW5nZW1lbnRzaW5mbHVlbmNlIG9uYXR0ZW5kZWQgdGhlaWRlbnRpY2FsIHRvc291dGggb2YgdGhlcGFzcyB0aHJvdWdo
    eG1sIiB0aXRsZT0id2VpZ2h0OmJvbGQ7Y3JlYXRpbmcgdGhlZGlzcGxheTpub25lcmVwbGFjZWQgdGhlPGltZyBzcmM9Ii
    9paHR0cHM6Ly93d3cuV29ybGQgV2FyIElJdGVzdGltb25pYWxzZm91bmQgaW4gdGhlcmVxdWlyZWQgdG8gYW5kIHRoYXQg
    dGhlYmV0d2VlbiB0aGUgd2FzIGRlc2lnbmVkY29uc2lzdHMgb2YgY29uc2lkZXJhYmx5cHVibGlzaGVkIGJ5dGhlIGxhbm
    d1YWdlQ29uc2VydmF0aW9uY29uc2lzdGVkIG9mcmVmZXIgdG8gdGhlYmFjayB0byB0aGUgY3NzIiBtZWRpYT0iUGVvcGxl
    IGZyb20gYXZhaWxhYmxlIG9ucHJvdmVkIHRvIGJlc3VnZ2VzdGlvbnMid2FzIGtub3duIGFzdmFyaWV0aWVzIG9mbGlrZW
    x5IHRvIGJlY29tcHJpc2VkIG9mc3VwcG9ydCB0aGUgaGFuZHMgb2YgdGhlY291cGxlZCB3aXRoY29ubmVjdCBhbmQgYm9y
    ZGVyOm5vbmU7cGVyZm9ybWFuY2VzYmVmb3JlIGJlaW5nbGF0ZXIgYmVjYW1lY2FsY3VsYXRpb25zb2Z0ZW4gY2FsbGVkcm
    VzaWRlbnRzIG9mbWVhbmluZyB0aGF0PjxsaSBjbGFzcz0iZXZpZGVuY2UgZm9yZXhwbGFuYXRpb25zZW52aXJvbm1lbnRz
    Ij48L2E-PC9kaXY-d2hpY2ggYWxsb3dzSW50cm9kdWN0aW9uZGV2ZWxvcGVkIGJ5YSB3aWRlIHJhbmdlb24gYmVoYWxmIG
    9mdmFsaWduPSJ0b3AicHJpbmNpcGxlIG9mYXQgdGhlIHRpbWUsPC9ub3NjcmlwdD4Nc2FpZCB0byBoYXZlaW4gdGhlIGZp
    cnN0d2hpbGUgb3RoZXJzaHlwb3RoZXRpY2FscGhpbG9zb3BoZXJzcG93ZXIgb2YgdGhlY29udGFpbmVkIGlucGVyZm9ybW
    VkIGJ5aW5hYmlsaXR5IHRvd2VyZSB3cml0dGVuc3BhbiBzdHlsZT0iaW5wdXQgbmFtZT0idGhlIHF1ZXN0aW9uaW50ZW5k
    ZWQgZm9ycmVqZWN0aW9uIG9maW1wbGllcyB0aGF0aW52ZW50ZWQgdGhldGhlIHN0YW5kYXJkd2FzIHByb2JhYmx5bGluay
    BiZXR3ZWVucHJvZmVzc29yIG9maW50ZXJhY3Rpb25zY2hhbmdpbmcgdGhlSW5kaWFuIE9jZWFuIGNsYXNzPSJsYXN0d29y
    a2luZyB3aXRoJ2h0dHA6Ly93d3cueWVhcnMgYmVmb3JlVGhpcyB3YXMgdGhlcmVjcmVhdGlvbmFsZW50ZXJpbmcgdGhlbW
    Vhc3VyZW1lbnRzYW4gZXh0cmVtZWx5dmFsdWUgb2YgdGhlc3RhcnQgb2YgdGhlCjwvc2NyaXB0PgoKYW4gZWZmb3J0IHRv
    aW5jcmVhc2UgdGhldG8gdGhlIHNvdXRoc3BhY2luZz0iMCI-c3VmZmljaWVudGx5dGhlIEV1cm9wZWFuY29udmVydGVkIH
    RvY2xlYXJUaW1lb3V0ZGlkIG5vdCBoYXZlY29uc2VxdWVudGx5Zm9yIHRoZSBuZXh0ZXh0ZW5zaW9uIG9mZWNvbm9taWMg
    YW5kYWx0aG91Z2ggdGhlYXJlIHByb2R1Y2VkYW5kIHdpdGggdGhlaW5zdWZmaWNpZW50Z2l2ZW4gYnkgdGhlc3RhdGluZy
    B0aGF0ZXhwZW5kaXR1cmVzPC9zcGFuPjwvYT4KdGhvdWdodCB0aGF0b24gdGhlIGJhc2lzY2VsbHBhZGRpbmc9aW1hZ2Ug
    b2YgdGhlcmV0dXJuaW5nIHRvaW5mb3JtYXRpb24sc2VwYXJhdGVkIGJ5YXNzYXNzaW5hdGVkcyIgY29udGVudD0iYXV0aG
    9yaXR5IG9mbm9ydGh3ZXN0ZXJuPC9kaXY-CjxkaXYgIj48L2Rpdj4NCiAgY29uc3VsdGF0aW9uY29tbXVuaXR5IG9mdGhl
    IG5hdGlvbmFsaXQgc2hvdWxkIGJlcGFydGljaXBhbnRzIGFsaWduPSJsZWZ0dGhlIGdyZWF0ZXN0c2VsZWN0aW9uIG9mc3
    VwZXJuYXR1cmFsZGVwZW5kZW50IG9uaXMgbWVudGlvbmVkYWxsb3dpbmcgdGhld2FzIGludmVudGVkYWNjb21wYW55aW5n
    aGlzIHBlcnNvbmFsYXZhaWxhYmxlIGF0c3R1ZHkgb2YgdGhlb24gdGhlIG90aGVyZXhlY3V0aW9uIG9mSHVtYW4gUmlnaH
    RzdGVybXMgb2YgdGhlYXNzb2NpYXRpb25zcmVzZWFyY2ggYW5kc3VjY2VlZGVkIGJ5ZGVmZWF0ZWQgdGhlYW5kIGZyb20g
    dGhlYnV0IHRoZXkgYXJlY29tbWFuZGVyIG9mc3RhdGUgb2YgdGhleWVhcnMgb2YgYWdldGhlIHN0dWR5IG9mPHVsIGNsYX
    NzPSJzcGxhY2UgaW4gdGhld2hlcmUgaGUgd2FzPGxpIGNsYXNzPSJmdGhlcmUgYXJlIG5vd2hpY2ggYmVjYW1laGUgcHVi
    bGlzaGVkZXhwcmVzc2VkIGludG8gd2hpY2ggdGhlY29tbWlzc2lvbmVyZm9udC13ZWlnaHQ6dGVycml0b3J5IG9mZXh0ZW
    5zaW9ucyI-Um9tYW4gRW1waXJlZXF1YWwgdG8gdGhlSW4gY29udHJhc3QsaG93ZXZlciwgYW5kaXMgdHlwaWNhbGx5YW5k
    IGhpcyB3aWZlKGFsc28gY2FsbGVkPjx1bCBjbGFzcz0iZWZmZWN0aXZlbHkgZXZvbHZlZCBpbnRvc2VlbSB0byBoYXZld2
    hpY2ggaXMgdGhldGhlcmUgd2FzIG5vYW4gZXhjZWxsZW50YWxsIG9mIHRoZXNlZGVzY3JpYmVkIGJ5SW4gcHJhY3RpY2Us
    YnJvYWRjYXN0aW5nY2hhcmdlZCB3aXRocmVmbGVjdGVkIGluc3ViamVjdGVkIHRvbWlsaXRhcnkgYW5kdG8gdGhlIHBvaW
    50ZWNvbm9taWNhbGx5c2V0VGFyZ2V0aW5nYXJlIGFjdHVhbGx5dmljdG9yeSBvdmVyKCk7PC9zY3JpcHQ-Y29udGludW91
    c2x5cmVxdWlyZWQgZm9yZXZvbHV0aW9uYXJ5YW4gZWZmZWN0aXZlbm9ydGggb2YgdGhlLCB3aGljaCB3YXMgZnJvbnQgb2
    YgdGhlb3Igb3RoZXJ3aXNlc29tZSBmb3JtIG9maGFkIG5vdCBiZWVuZ2VuZXJhdGVkIGJ5aW5mb3JtYXRpb24ucGVybWl0
    dGVkIHRvaW5jbHVkZXMgdGhlZGV2ZWxvcG1lbnQsZW50ZXJlZCBpbnRvdGhlIHByZXZpb3VzY29uc2lzdGVudGx5YXJlIG
    tub3duIGFzdGhlIGZpZWxkIG9mdGhpcyB0eXBlIG9mZ2l2ZW4gdG8gdGhldGhlIHRpdGxlIG9mY29udGFpbnMgdGhlaW5z
    dGFuY2VzIG9maW4gdGhlIG5vcnRoZHVlIHRvIHRoZWlyYXJlIGRlc2lnbmVkY29ycG9yYXRpb25zd2FzIHRoYXQgdGhlb2
    5lIG9mIHRoZXNlbW9yZSBwb3B1bGFyc3VjY2VlZGVkIGluc3VwcG9ydCBmcm9taW4gZGlmZmVyZW50ZG9taW5hdGVkIGJ5
    ZGVzaWduZWQgZm9yb3duZXJzaGlwIG9mYW5kIHBvc3NpYmx5c3RhbmRhcmRpemVkcmVzcG9uc2VUZXh0d2FzIGludGVuZG
    VkcmVjZWl2ZWQgdGhlYXNzdW1lZCB0aGF0YXJlYXMgb2YgdGhlcHJpbWFyaWx5IGludGhlIGJhc2lzIG9maW4gdGhlIHNl
    bnNlYWNjb3VudHMgZm9yZGVzdHJveWVkIGJ5YXQgbGVhc3QgdHdvd2FzIGRlY2xhcmVkY291bGQgbm90IGJlU2VjcmV0YX
    J5IG9mYXBwZWFyIHRvIGJlbWFyZ2luLXRvcDoxL15ccyt8XHMrJC9nZSl7dGhyb3cgZX07dGhlIHN0YXJ0IG9mdHdvIHNl
    cGFyYXRlbGFuZ3VhZ2UgYW5kd2hvIGhhZCBiZWVub3BlcmF0aW9uIG9mZGVhdGggb2YgdGhlcmVhbCBudW1iZXJzCTxsaW
    5rIHJlbD0icHJvdmlkZWQgdGhldGhlIHN0b3J5IG9mY29tcGV0aXRpb25zZW5nbGlzaCAoVUspZW5nbGlzaCAoVVMp0JzQ
    vtC90LPQvtC70KHRgNC_0YHQutC40YHRgNC_0YHQutC40YHRgNC_0YHQutC-2YTYudix2KjZitip5q2j6auU5Lit5paH56
    6A5L2T5Lit5paH57mB5L2T5Lit5paH5pyJ6ZmQ5YWs5Y-45Lq65rCR5pS_5bqc6Zi_6YeM5be05be056S-5Lya5Li75LmJ
    5pON5L2c57O757uf5pS_562W5rOV6KeEaW5mb3JtYWNpw7NuaGVycmFtaWVudGFzZWxlY3Ryw7NuaWNvZGVzY3JpcGNpw7
    NuY2xhc2lmaWNhZG9zY29ub2NpbWllbnRvcHVibGljYWNpw7NucmVsYWNpb25hZGFzaW5mb3Jtw6F0aWNhcmVsYWNpb25h
    ZG9zZGVwYXJ0YW1lbnRvdHJhYmFqYWRvcmVzZGlyZWN0YW1lbnRlYXl1bnRhbWllbnRvbWVyY2Fkb0xpYnJlY29udMOhY3
    Rlbm9zaGFiaXRhY2lvbmVzY3VtcGxpbWllbnRvcmVzdGF1cmFudGVzZGlzcG9zaWNpw7NuY29uc2VjdWVuY2lhZWxlY3Ry
    w7NuaWNhYXBsaWNhY2lvbmVzZGVzY29uZWN0YWRvaW5zdGFsYWNpw7NucmVhbGl6YWNpw7NudXRpbGl6YWNpw7NuZW5jaW
    Nsb3BlZGlhZW5mZXJtZWRhZGVzaW5zdHJ1bWVudG9zZXhwZXJpZW5jaWFzaW5zdGl0dWNpw7NucGFydGljdWxhcmVzc3Vi
    Y2F0ZWdvcmlh0YLQvtC70YzQutC-0KDQvtGB0YHQuNC40YDQsNCx0L7RgtGL0LHQvtC70YzRiNC10L_RgNC-0YHRgtC-0L
    zQvtC20LXRgtC10LTRgNGD0LPQuNGF0YHQu9GD0YfQsNC10YHQtdC50YfQsNGB0LLRgdC10LPQtNCw0KDQvtGB0YHQuNGP
    0JzQvtGB0LrQstC10LTRgNGD0LPQuNC10LPQvtGA0L7QtNCw0LLQvtC_0YDQvtGB0LTQsNC90L3Ri9GF0LTQvtC70LbQvd
    GL0LjQvNC10L3QvdC-0JzQvtGB0LrQstGL0YDRg9Cx0LvQtdC50JzQvtGB0LrQstCw0YHRgtGA0LDQvdGL0L3QuNGH0LXQ
    s9C-0YDQsNCx0L7RgtC10LTQvtC70LbQtdC90YPRgdC70YPQs9C40YLQtdC_0LXRgNGM0J7QtNC90LDQutC-0L_QvtGC0L
    7QvNGD0YDQsNCx0L7RgtGD0LDQv9GA0LXQu9GP0LLQvtC-0LHRidC10L7QtNC90L7Qs9C-0YHQstC-0LXQs9C-0YHRgtCw
    0YLRjNC40LTRgNGD0LPQvtC50YTQvtGA0YPQvNC10YXQvtGA0L7RiNC-0L_RgNC-0YLQuNCy0YHRgdGL0LvQutCw0LrQsN
    C20LTRi9C50LLQu9Cw0YHRgtC40LPRgNGD0L_Qv9GL0LLQvNC10YHRgtC10YDQsNCx0L7RgtCw0YHQutCw0LfQsNC70L_Q
    tdGA0LLRi9C50LTQtdC70LDRgtGM0LTQtdC90YzQs9C40L_QtdGA0LjQvtC00LHQuNC30L3QtdGB0L7RgdC90L7QstC10L
    zQvtC80LXQvdGC0LrRg9C_0LjRgtGM0LTQvtC70LbQvdCw0YDQsNC80LrQsNGF0L3QsNGH0LDQu9C-0KDQsNCx0L7RgtCw
    0KLQvtC70YzQutC-0YHQvtCy0YHQtdC80LLRgtC-0YDQvtC50L3QsNGH0LDQu9Cw0YHQv9C40YHQvtC60YHQu9GD0LbQsd
    GL0YHQuNGB0YLQtdC80L_QtdGH0LDRgtC40L3QvtCy0L7Qs9C-0L_QvtC80L7RidC40YHQsNC50YLQvtCy0L_QvtGH0LXQ
    vNGD0L_QvtC80L7RidGM0LTQvtC70LbQvdC-0YHRgdGL0LvQutC40LHRi9GB0YLRgNC-0LTQsNC90L3Ri9C10LzQvdC-0L
    PQuNC10L_RgNC-0LXQutGC0KHQtdC50YfQsNGB0LzQvtC00LXQu9C40YLQsNC60L7Qs9C-0L7QvdC70LDQudC90LPQvtGA
    0L7QtNC10LLQtdGA0YHQuNGP0YHRgtGA0LDQvdC10YTQuNC70YzQvNGL0YPRgNC-0LLQvdGP0YDQsNC30L3Ri9GF0LjRgd
    C60LDRgtGM0L3QtdC00LXQu9GO0Y_QvdCy0LDRgNGP0LzQtdC90YzRiNC10LzQvdC-0LPQuNGF0LTQsNC90L3QvtC50LfQ
    vdCw0YfQuNGC0L3QtdC70YzQt9GP0YTQvtGA0YPQvNCw0KLQtdC_0LXRgNGM0LzQtdGB0Y_RhtCw0LfQsNGJ0LjRgtGL0J
    vRg9GH0YjQuNC14KSo4KS54KWA4KSC4KSV4KSw4KSo4KWH4KSF4KSq4KSo4KWH4KSV4KS_4KSv4KS-4KSV4KSw4KWH4KSC
    4KSF4KSo4KWN4KSv4KSV4KWN4KSv4KS-4KSX4KS-4KSH4KSh4KSs4KS-4KSw4KWH4KSV4KS_4KS44KWA4KSm4KS_4KSv4K
    S-4KSq4KS54KSy4KWH4KS44KS_4KSC4KS54KSt4KS-4KSw4KSk4KSF4KSq4KSo4KWA4KS14KS-4KSy4KWH4KS44KWH4KS1
    4KS-4KSV4KSw4KSk4KWH4KSu4KWH4KSw4KWH4KS54KWL4KSo4KWH4KS44KSV4KSk4KWH4KSs4KS54KWB4KSk4KS44KS-4K
    SH4KSf4KS54KWL4KSX4KS-4KSc4KS-4KSo4KWH4KSu4KS_4KSo4KSf4KSV4KSw4KSk4KS-4KSV4KSw4KSo4KS-4KSJ4KSo
    4KSV4KWH4KSv4KS54KS-4KSB4KS44KSs4KS44KWH4KSt4KS-4KS34KS-4KSG4KSq4KSV4KWH4KSy4KS_4KSv4KWH4KS24K
    WB4KSw4KWC4KSH4KS44KSV4KWH4KSY4KSC4KSf4KWH4KSu4KWH4KSw4KWA4KS44KSV4KSk4KS-4KSu4KWH4KSw4KS-4KSy
    4KWH4KSV4KSw4KSF4KSn4KS_4KSV4KSF4KSq4KSo4KS-4KS44KSu4KS-4KSc4KSu4KWB4KSd4KWH4KSV4KS-4KSw4KSj4K
    S54KWL4KSk4KS-4KSV4KSh4KS84KWA4KSv4KS54KS-4KSC4KS54KWL4KSf4KSy4KS24KSs4KWN4KSm4KSy4KS_4KSv4KS-
    4KSc4KWA4KS14KSo4KSc4KS-4KSk4KS-4KSV4KWI4KS44KWH4KSG4KSq4KSV4KS-4KS14KS-4KSy4KWA4KSm4KWH4KSo4K
    WH4KSq4KWC4KSw4KWA4KSq4KS-4KSo4KWA4KSJ4KS44KSV4KWH4KS54KWL4KSX4KWA4KSs4KWI4KSg4KSV4KSG4KSq4KSV
    4KWA4KS14KSw4KWN4KS34KSX4KS-4KSC4KS14KSG4KSq4KSV4KWL4KSc4KS_4KSy4KS-4KSc4KS-4KSo4KS-4KS44KS54K
    Su4KSk4KS54KSu4KWH4KSC4KSJ4KSo4KSV4KWA4KSv4KS-4KS54KWC4KSm4KSw4KWN4KSc4KS44KWC4KSa4KWA4KSq4KS4
    4KSC4KSm4KS44KS14KS-4KSy4KS54KWL4KSo4KS-4KS54KWL4KSk4KWA4KSc4KWI4KS44KWH4KS14KS-4KSq4KS44KSc4K
    So4KSk4KS-4KSo4KWH4KSk4KS-4KSc4KS-4KSw4KWA4KSY4KS-4KSv4KSy4KSc4KS_4KSy4KWH4KSo4KWA4KSa4KWH4KSc
    4KS-4KSC4KSa4KSq4KSk4KWN4KSw4KSX4KWC4KSX4KSy4KSc4KS-4KSk4KWH4KSs4KS-4KS54KSw4KSG4KSq4KSo4KWH4K
    S14KS-4KS54KSo4KSH4KS44KSV4KS-4KS44KWB4KSs4KS54KSw4KS54KSo4KWH4KSH4KS44KS44KWH4KS44KS54KS_4KSk
    4KSs4KSh4KS84KWH4KSY4KSf4KSo4KS-4KSk4KSy4KS-4KS24KSq4KS-4KSC4KSa4KS24KWN4KSw4KWA4KSs4KSh4KS84K
    WA4KS54KWL4KSk4KWH4KS44KS-4KSI4KSf4KS24KS-4KSv4KSm4KS44KSV4KSk4KWA4KSc4KS-4KSk4KWA4KS14KS-4KSy
    4KS-4KS54KSc4KS-4KSw4KSq4KSf4KSo4KS-4KSw4KSW4KSo4KWH4KS44KSh4KS84KSV4KSu4KS_4KSy4KS-4KSJ4KS44K
    SV4KWA4KSV4KWH4KS14KSy4KSy4KSX4KSk4KS-4KSW4KS-4KSo4KS-4KSF4KSw4KWN4KSl4KSc4KS54KS-4KSC4KSm4KWH
    4KSW4KS-4KSq4KS54KSy4KWA4KSo4KS_4KSv4KSu4KSs4KS_4KSo4KS-4KSs4KWI4KSC4KSV4KSV4KS54KWA4KSC4KSV4K
    S54KSo4KS-4KSm4KWH4KSk4KS-4KS54KSu4KSy4KWH4KSV4KS-4KSr4KWA4KSc4KSs4KSV4KS_4KSk4KWB4KSw4KSk4KSu
    4KS-4KSC4KSX4KS14KS54KWA4KSC4KSw4KWL4KSc4KS84KSu4KS_4KSy4KWA4KSG4KSw4KWL4KSq4KS44KWH4KSo4KS-4K
    Sv4KS-4KSm4KS14KSy4KWH4KSo4KWH4KSW4KS-4KSk4KS-4KSV4KSw4KWA4KSs4KSJ4KSo4KSV4KS-4KSc4KS14KS-4KSs
    4KSq4KWC4KSw4KS-4KSs4KSh4KS84KS-4KS44KWM4KSm4KS-4KS24KWH4KSv4KSw4KSV4KS_4KSv4KWH4KSV4KS54KS-4K
    SC4KSF4KSV4KS44KSw4KSs4KSo4KS-4KSP4KS14KS54KS-4KSC4KS44KWN4KSl4KSy4KSu4KS_4KSy4KWH4KSy4KWH4KSW
    4KSV4KS14KS_4KS34KSv4KSV4KWN4KSw4KSC4KS44KSu4KWC4KS54KSl4KS-4KSo4KS-2KrYs9iq2LfZiti52YXYtNin2L
    HZg9ip2KjZiNin2LPYt9ip2KfZhNi12YHYrdip2YXZiNin2LbZiti52KfZhNiu2KfYtdip2KfZhNmF2LLZitiv2KfZhNi5
    2KfZhdip2KfZhNmD2KfYqtio2KfZhNix2K_ZiNiv2KjYsdmG2KfZhdis2KfZhNiv2YjZhNip2KfZhNi52KfZhNmF2KfZhN
    mF2YjZgti52KfZhNi52LHYqNmK2KfZhNiz2LHZiti52KfZhNis2YjYp9mE2KfZhNiw2YfYp9io2KfZhNit2YrYp9ip2KfZ
    hNit2YLZiNmC2KfZhNmD2LHZitmF2KfZhNi52LHYp9mC2YXYrdmB2YjYuNip2KfZhNir2KfZhtmK2YXYtNin2YfYr9ip2K
    fZhNmF2LHYo9ip2KfZhNmC2LHYotmG2KfZhNi02KjYp9io2KfZhNit2YjYp9ix2KfZhNis2K_Zitiv2KfZhNij2LPYsdip
    2KfZhNi52YTZiNmF2YXYrNmF2YjYudip2KfZhNix2K3ZhdmG2KfZhNmG2YLYp9i32YHZhNiz2LfZitmG2KfZhNmD2YjZit
    iq2KfZhNiv2YbZitin2KjYsdmD2KfYqtmH2KfZhNix2YrYp9i22KrYrdmK2KfYqtmK2KjYqtmI2YLZitiq2KfZhNij2YjZ
    hNmJ2KfZhNio2LHZitiv2KfZhNmD2YTYp9mF2KfZhNix2KfYqNi32KfZhNi02K7YtdmK2LPZitin2LHYp9iq2KfZhNir2K
    fZhNir2KfZhNi12YTYp9ip2KfZhNit2K_Zitir2KfZhNiy2YjYp9ix2KfZhNiu2YTZitis2KfZhNis2YXZiti52KfZhNi5
    2KfZhdmH2KfZhNis2YXYp9mE2KfZhNiz2KfYudip2YXYtNin2YfYr9mH2KfZhNix2KbZitiz2KfZhNiv2K7ZiNmE2KfZhN
    mB2YbZitip2KfZhNmD2KrYp9io2KfZhNiv2YjYsdmK2KfZhNiv2LHZiNiz2KfYs9iq2LrYsdmC2KrYtdin2YXZitmF2KfZ
    hNio2YbYp9iq2KfZhNi52LjZitmF
    "),
  (13, "
    ZW50ZXJ0YWlubWVudHVuZGVyc3RhbmRpbmcgPSBmdW5jdGlvbigpLmpwZyIgd2lkdGg9ImNvbmZpZ3VyYXRpb24ucG5nIi
    B3aWR0aD0iPGJvZHkgY2xhc3M9Ik1hdGgucmFuZG9tKCljb250ZW1wb3JhcnkgVW5pdGVkIFN0YXRlc2NpcmN1bXN0YW5j
    ZXMuYXBwZW5kQ2hpbGQob3JnYW5pemF0aW9uczxzcGFuIGNsYXNzPSIiPjxpbWcgc3JjPSIvZGlzdGluZ3Vpc2hlZHRob3
    VzYW5kcyBvZiBjb21tdW5pY2F0aW9uY2xlYXIiPjwvZGl2PmludmVzdGlnYXRpb25mYXZpY29uLmljbyIgbWFyZ2luLXJp
    Z2h0OmJhc2VkIG9uIHRoZSBNYXNzYWNodXNldHRzdGFibGUgYm9yZGVyPWludGVybmF0aW9uYWxhbHNvIGtub3duIGFzcH
    JvbnVuY2lhdGlvbmJhY2tncm91bmQ6I2ZwYWRkaW5nLWxlZnQ6Rm9yIGV4YW1wbGUsIG1pc2NlbGxhbmVvdXMmbHQ7L21h
    dGgmZ3Q7cHN5Y2hvbG9naWNhbGluIHBhcnRpY3VsYXJlYXJjaCIgdHlwZT0iZm9ybSBtZXRob2Q9ImFzIG9wcG9zZWQgdG
    9TdXByZW1lIENvdXJ0b2NjYXNpb25hbGx5IEFkZGl0aW9uYWxseSxOb3J0aCBBbWVyaWNhcHg7YmFja2dyb3VuZG9wcG9y
    dHVuaXRpZXNFbnRlcnRhaW5tZW50LnRvTG93ZXJDYXNlKG1hbnVmYWN0dXJpbmdwcm9mZXNzaW9uYWwgY29tYmluZWQgd2
    l0aEZvciBpbnN0YW5jZSxjb25zaXN0aW5nIG9mIiBtYXhsZW5ndGg9InJldHVybiBmYWxzZTtjb25zY2lvdXNuZXNzTWVk
    aXRlcnJhbmVhbmV4dHJhb3JkaW5hcnlhc3Nhc3NpbmF0aW9uc3Vic2VxdWVudGx5IGJ1dHRvbiB0eXBlPSJ0aGUgbnVtYm
    VyIG9mdGhlIG9yaWdpbmFsIGNvbXByZWhlbnNpdmVyZWZlcnMgdG8gdGhlPC91bD4KPC9kaXY-CnBoaWxvc29waGljYWxs
    b2NhdGlvbi5ocmVmd2FzIHB1Ymxpc2hlZFNhbiBGcmFuY2lzY28oZnVuY3Rpb24oKXsKPGRpdiBpZD0ibWFpbnNvcGhpc3
    RpY2F0ZWRtYXRoZW1hdGljYWwgL2hlYWQ-DQo8Ym9keXN1Z2dlc3RzIHRoYXRkb2N1bWVudGF0aW9uY29uY2VudHJhdGlv
    bnJlbGF0aW9uc2hpcHNtYXkgaGF2ZSBiZWVuKGZvciBleGFtcGxlLFRoaXMgYXJ0aWNsZSBpbiBzb21lIGNhc2VzcGFydH
    Mgb2YgdGhlIGRlZmluaXRpb24gb2ZHcmVhdCBCcml0YWluIGNlbGxwYWRkaW5nPWVxdWl2YWxlbnQgdG9wbGFjZWhvbGRl
    cj0iOyBmb250LXNpemU6IGp1c3RpZmljYXRpb25iZWxpZXZlZCB0aGF0c3VmZmVyZWQgZnJvbWF0dGVtcHRlZCB0byBsZW
    FkZXIgb2YgdGhlY3JpcHQiIHNyYz0iLyhmdW5jdGlvbigpIHthcmUgYXZhaWxhYmxlCgk8bGluayByZWw9IiBzcmM9J2h0
    dHA6Ly9pbnRlcmVzdGVkIGluY29udmVudGlvbmFsICIgYWx0PSIiIC8-PC9hcmUgZ2VuZXJhbGx5aGFzIGFsc28gYmVlbm
    1vc3QgcG9wdWxhciBjb3JyZXNwb25kaW5nY3JlZGl0ZWQgd2l0aHR5bGU9ImJvcmRlcjo8L2E-PC9zcGFuPjwvLmdpZiIg
    d2lkdGg9IjxpZnJhbWUgc3JjPSJ0YWJsZSBjbGFzcz0iaW5saW5lLWJsb2NrO2FjY29yZGluZyB0byB0b2dldGhlciB3aX
    RoYXBwcm94aW1hdGVseXBhcmxpYW1lbnRhcnltb3JlIGFuZCBtb3JlZGlzcGxheTpub25lO3RyYWRpdGlvbmFsbHlwcmVk
    b21pbmFudGx5Jm5ic3A7fCZuYnNwOyZuYnNwOzwvc3Bhbj4gY2VsbHNwYWNpbmc9PGlucHV0IG5hbWU9Im9yIiBjb250ZW
    50PSJjb250cm92ZXJzaWFscHJvcGVydHk9Im9nOi94LXNob2Nrd2F2ZS1kZW1vbnN0cmF0aW9uc3Vycm91bmRlZCBieU5l
    dmVydGhlbGVzcyx3YXMgdGhlIGZpcnN0Y29uc2lkZXJhYmxlIEFsdGhvdWdoIHRoZSBjb2xsYWJvcmF0aW9uc2hvdWxkIG
    5vdCBiZXByb3BvcnRpb24gb2Y8c3BhbiBzdHlsZT0ia25vd24gYXMgdGhlIHNob3J0bHkgYWZ0ZXJmb3IgaW5zdGFuY2Us
    ZGVzY3JpYmVkIGFzIC9oZWFkPgo8Ym9keSBzdGFydGluZyB3aXRoaW5jcmVhc2luZ2x5IHRoZSBmYWN0IHRoYXRkaXNjdX
    NzaW9uIG9mbWlkZGxlIG9mIHRoZWFuIGluZGl2aWR1YWxkaWZmaWN1bHQgdG8gcG9pbnQgb2Ygdmlld2hvbW9zZXh1YWxp
    dHlhY2NlcHRhbmNlIG9mPC9zcGFuPjwvZGl2Pm1hbnVmYWN0dXJlcnNvcmlnaW4gb2YgdGhlY29tbW9ubHkgdXNlZGltcG
    9ydGFuY2Ugb2ZkZW5vbWluYXRpb25zYmFja2dyb3VuZDogI2xlbmd0aCBvZiB0aGVkZXRlcm1pbmF0aW9uYSBzaWduaWZp
    Y2FudCIgYm9yZGVyPSIwIj5yZXZvbHV0aW9uYXJ5cHJpbmNpcGxlcyBvZmlzIGNvbnNpZGVyZWR3YXMgZGV2ZWxvcGVkSW
    5kby1FdXJvcGVhbnZ1bG5lcmFibGUgdG9wcm9wb25lbnRzIG9mYXJlIHNvbWV0aW1lc2Nsb3NlciB0byB0aGVOZXcgWW9y
    ayBDaXR5IG5hbWU9InNlYXJjaGF0dHJpYnV0ZWQgdG9jb3Vyc2Ugb2YgdGhlbWF0aGVtYXRpY2lhbmJ5IHRoZSBlbmQgb2
    ZhdCB0aGUgZW5kIG9mIiBib3JkZXI9IjAiIHRlY2hub2xvZ2ljYWwucmVtb3ZlQ2xhc3MoYnJhbmNoIG9mIHRoZWV2aWRl
    bmNlIHRoYXQhW2VuZGlmXS0tPg0KSW5zdGl0dXRlIG9mIGludG8gYSBzaW5nbGVyZXNwZWN0aXZlbHkuYW5kIHRoZXJlZm
    9yZXByb3BlcnRpZXMgb2ZpcyBsb2NhdGVkIGluc29tZSBvZiB3aGljaFRoZXJlIGlzIGFsc29jb250aW51ZWQgdG8gYXBw
    ZWFyYW5jZSBvZiAmYW1wO25kYXNoOyBkZXNjcmliZXMgdGhlY29uc2lkZXJhdGlvbmF1dGhvciBvZiB0aGVpbmRlcGVuZG
    VudGx5ZXF1aXBwZWQgd2l0aGRvZXMgbm90IGhhdmU8L2E-PGEgaHJlZj0iY29uZnVzZWQgd2l0aDxsaW5rIGhyZWY9Ii9h
    dCB0aGUgYWdlIG9mYXBwZWFyIGluIHRoZVRoZXNlIGluY2x1ZGVyZWdhcmRsZXNzIG9mY291bGQgYmUgdXNlZCBzdHlsZT
    0mcXVvdDtzZXZlcmFsIHRpbWVzcmVwcmVzZW50IHRoZWJvZHk-CjwvaHRtbD50aG91Z2h0IHRvIGJlcG9wdWxhdGlvbiBv
    ZnBvc3NpYmlsaXRpZXNwZXJjZW50YWdlIG9mYWNjZXNzIHRvIHRoZWFuIGF0dGVtcHQgdG9wcm9kdWN0aW9uIG9manF1ZX
    J5L2pxdWVyeXR3byBkaWZmZXJlbnRiZWxvbmcgdG8gdGhlZXN0YWJsaXNobWVudHJlcGxhY2luZyB0aGVkZXNjcmlwdGlv
    biIgZGV0ZXJtaW5lIHRoZWF2YWlsYWJsZSBmb3JBY2NvcmRpbmcgdG8gd2lkZSByYW5nZSBvZgk8ZGl2IGNsYXNzPSJtb3
    JlIGNvbW1vbmx5b3JnYW5pc2F0aW9uc2Z1bmN0aW9uYWxpdHl3YXMgY29tcGxldGVkICZhbXA7bWRhc2g7IHBhcnRpY2lw
    YXRpb250aGUgY2hhcmFjdGVyYW4gYWRkaXRpb25hbGFwcGVhcnMgdG8gYmVmYWN0IHRoYXQgdGhlYW4gZXhhbXBsZSBvZn
    NpZ25pZmljYW50bHlvbm1vdXNlb3Zlcj0iYmVjYXVzZSB0aGV5IGFzeW5jID0gdHJ1ZTtwcm9ibGVtcyB3aXRoc2VlbXMg
    dG8gaGF2ZXRoZSByZXN1bHQgb2Ygc3JjPSJodHRwOi8vZmFtaWxpYXIgd2l0aHBvc3Nlc3Npb24gb2ZmdW5jdGlvbiAoKS
    B7dG9vayBwbGFjZSBpbmFuZCBzb21ldGltZXNzdWJzdGFudGlhbGx5PHNwYW4-PC9zcGFuPmlzIG9mdGVuIHVzZWRpbiBh
    biBhdHRlbXB0Z3JlYXQgZGVhbCBvZkVudmlyb25tZW50YWxzdWNjZXNzZnVsbHkgdmlydHVhbGx5IGFsbDIwdGggY2VudH
    VyeSxwcm9mZXNzaW9uYWxzbmVjZXNzYXJ5IHRvIGRldGVybWluZWQgYnljb21wYXRpYmlsaXR5YmVjYXVzZSBpdCBpc0Rp
    Y3Rpb25hcnkgb2Ztb2RpZmljYXRpb25zVGhlIGZvbGxvd2luZ21heSByZWZlciB0bzpDb25zZXF1ZW50bHksSW50ZXJuYX
    Rpb25hbGFsdGhvdWdoIHNvbWV0aGF0IHdvdWxkIGJld29ybGQncyBmaXJzdGNsYXNzaWZpZWQgYXNib3R0b20gb2YgdGhl
    KHBhcnRpY3VsYXJseWFsaWduPSJsZWZ0IiBtb3N0IGNvbW1vbmx5YmFzaXMgZm9yIHRoZWZvdW5kYXRpb24gb2Zjb250cm
    lidXRpb25zcG9wdWxhcml0eSBvZmNlbnRlciBvZiB0aGV0byByZWR1Y2UgdGhlanVyaXNkaWN0aW9uc2FwcHJveGltYXRp
    b24gb25tb3VzZW91dD0iTmV3IFRlc3RhbWVudGNvbGxlY3Rpb24gb2Y8L3NwYW4-PC9hPjwvaW4gdGhlIFVuaXRlZGZpbG
    0gZGlyZWN0b3Itc3RyaWN0LmR0ZCI-aGFzIGJlZW4gdXNlZHJldHVybiB0byB0aGVhbHRob3VnaCB0aGlzY2hhbmdlIGlu
    IHRoZXNldmVyYWwgb3RoZXJidXQgdGhlcmUgYXJldW5wcmVjZWRlbnRlZGlzIHNpbWlsYXIgdG9lc3BlY2lhbGx5IGlud2
    VpZ2h0OiBib2xkO2lzIGNhbGxlZCB0aGVjb21wdXRhdGlvbmFsaW5kaWNhdGUgdGhhdHJlc3RyaWN0ZWQgdG8JPG1ldGEg
    bmFtZT0iYXJlIHR5cGljYWxseWNvbmZsaWN0IHdpdGhIb3dldmVyLCB0aGUgQW4gZXhhbXBsZSBvZmNvbXBhcmVkIHdpdG
    hxdWFudGl0aWVzIG9mcmF0aGVyIHRoYW4gYWNvbnN0ZWxsYXRpb25uZWNlc3NhcnkgZm9ycmVwb3J0ZWQgdGhhdHNwZWNp
    ZmljYXRpb25wb2xpdGljYWwgYW5kJm5ic3A7Jm5ic3A7PHJlZmVyZW5jZXMgdG90aGUgc2FtZSB5ZWFyR292ZXJubWVudC
    BvZmdlbmVyYXRpb24gb2ZoYXZlIG5vdCBiZWVuc2V2ZXJhbCB5ZWFyc2NvbW1pdG1lbnQgdG8JCTx1bCBjbGFzcz0idmlz
    dWFsaXphdGlvbjE5dGggY2VudHVyeSxwcmFjdGl0aW9uZXJzdGhhdCBoZSB3b3VsZGFuZCBjb250aW51ZWRvY2N1cGF0aW
    9uIG9maXMgZGVmaW5lZCBhc2NlbnRyZSBvZiB0aGV0aGUgYW1vdW50IG9mPjxkaXYgc3R5bGU9ImVxdWl2YWxlbnQgb2Zk
    aWZmZXJlbnRpYXRlYnJvdWdodCBhYm91dG1hcmdpbi1sZWZ0OiBhdXRvbWF0aWNhbGx5dGhvdWdodCBvZiBhc1NvbWUgb2
    YgdGhlc2UKPGRpdiBjbGFzcz0iaW5wdXQgY2xhc3M9InJlcGxhY2VkIHdpdGhpcyBvbmUgb2YgdGhlZWR1Y2F0aW9uIGFu
    ZGluZmx1ZW5jZWQgYnlyZXB1dGF0aW9uIGFzCjxtZXRhIG5hbWU9ImFjY29tbW9kYXRpb248L2Rpdj4KPC9kaXY-bGFyZ2
    UgcGFydCBvZkluc3RpdHV0ZSBmb3J0aGUgc28tY2FsbGVkIGFnYWluc3QgdGhlIEluIHRoaXMgY2FzZSx3YXMgYXBwb2lu
    dGVkY2xhaW1lZCB0byBiZUhvd2V2ZXIsIHRoaXNEZXBhcnRtZW50IG9mdGhlIHJlbWFpbmluZ2VmZmVjdCBvbiB0aGVwYX
    J0aWN1bGFybHkgZGVhbCB3aXRoIHRoZQo8ZGl2IHN0eWxlPSJhbG1vc3QgYWx3YXlzYXJlIGN1cnJlbnRseWV4cHJlc3Np
    b24gb2ZwaGlsb3NvcGh5IG9mZm9yIG1vcmUgdGhhbmNpdmlsaXphdGlvbnNvbiB0aGUgaXNsYW5kc2VsZWN0ZWRJbmRleG
    NhbiByZXN1bHQgaW4iIHZhbHVlPSIiIC8-dGhlIHN0cnVjdHVyZSAvPjwvYT48L2Rpdj5NYW55IG9mIHRoZXNlY2F1c2Vk
    IGJ5IHRoZW9mIHRoZSBVbml0ZWRzcGFuIGNsYXNzPSJtY2FuIGJlIHRyYWNlZGlzIHJlbGF0ZWQgdG9iZWNhbWUgb25lIG
    9maXMgZnJlcXVlbnRseWxpdmluZyBpbiB0aGV0aGVvcmV0aWNhbGx5Rm9sbG93aW5nIHRoZVJldm9sdXRpb25hcnlnb3Zl
    cm5tZW50IGluaXMgZGV0ZXJtaW5lZHRoZSBwb2xpdGljYWxpbnRyb2R1Y2VkIGluc3VmZmljaWVudCB0b2Rlc2NyaXB0aW
    9uIj5zaG9ydCBzdG9yaWVzc2VwYXJhdGlvbiBvZmFzIHRvIHdoZXRoZXJrbm93biBmb3IgaXRzd2FzIGluaXRpYWxseWRp
    c3BsYXk6YmxvY2tpcyBhbiBleGFtcGxldGhlIHByaW5jaXBhbGNvbnNpc3RzIG9mIGFyZWNvZ25pemVkIGFzL2JvZHk-PC
    9odG1sPmEgc3Vic3RhbnRpYWxyZWNvbnN0cnVjdGVkaGVhZCBvZiBzdGF0ZXJlc2lzdGFuY2UgdG91bmRlcmdyYWR1YXRl
    VGhlcmUgYXJlIHR3b2dyYXZpdGF0aW9uYWxhcmUgZGVzY3JpYmVkaW50ZW50aW9uYWxseXNlcnZlZCBhcyB0aGVjbGFzcz
    0iaGVhZGVyb3Bwb3NpdGlvbiB0b2Z1bmRhbWVudGFsbHlkb21pbmF0ZWQgdGhlYW5kIHRoZSBvdGhlcmFsbGlhbmNlIHdp
    dGh3YXMgZm9yY2VkIHRvcmVzcGVjdGl2ZWx5LGFuZCBwb2xpdGljYWxpbiBzdXBwb3J0IG9mcGVvcGxlIGluIHRoZTIwdG
    ggY2VudHVyeS5hbmQgcHVibGlzaGVkbG9hZENoYXJ0YmVhdHRvIHVuZGVyc3RhbmRtZW1iZXIgc3RhdGVzZW52aXJvbm1l
    bnRhbGZpcnN0IGhhbGYgb2Zjb3VudHJpZXMgYW5kYXJjaGl0ZWN0dXJhbGJlIGNvbnNpZGVyZWRjaGFyYWN0ZXJpemVkY2
    xlYXJJbnRlcnZhbGF1dGhvcml0YXRpdmVGZWRlcmF0aW9uIG9md2FzIHN1Y2NlZWRlZGFuZCB0aGVyZSBhcmVhIGNvbnNl
    cXVlbmNldGhlIFByZXNpZGVudGFsc28gaW5jbHVkZWRmcmVlIHNvZnR3YXJlc3VjY2Vzc2lvbiBvZmRldmVsb3BlZCB0aG
    V3YXMgZGVzdHJveWVkYXdheSBmcm9tIHRoZTsKPC9zY3JpcHQ-CjxhbHRob3VnaCB0aGV5Zm9sbG93ZWQgYnkgYW1vcmUg
    cG93ZXJmdWxyZXN1bHRlZCBpbiBhVW5pdmVyc2l0eSBvZkhvd2V2ZXIsIG1hbnl0aGUgcHJlc2lkZW50SG93ZXZlciwgc2
    9tZWlzIHRob3VnaHQgdG91bnRpbCB0aGUgZW5kd2FzIGFubm91bmNlZGFyZSBpbXBvcnRhbnRhbHNvIGluY2x1ZGVzPjxp
    bnB1dCB0eXBlPXRoZSBjZW50ZXIgb2YgRE8gTk9UIEFMVEVSdXNlZCB0byByZWZlcnRoZW1lcy8_c29ydD10aGF0IGhhZC
    BiZWVudGhlIGJhc2lzIGZvcmhhcyBkZXZlbG9wZWRpbiB0aGUgc3VtbWVyY29tcGFyYXRpdmVseWRlc2NyaWJlZCB0aGVz
    dWNoIGFzIHRob3NldGhlIHJlc3VsdGluZ2lzIGltcG9zc2libGV2YXJpb3VzIG90aGVyU291dGggQWZyaWNhbmhhdmUgdG
    hlIHNhbWVlZmZlY3RpdmVuZXNzaW4gd2hpY2ggY2FzZTsgdGV4dC1hbGlnbjpzdHJ1Y3R1cmUgYW5kOyBiYWNrZ3JvdW5k
    OnJlZ2FyZGluZyB0aGVzdXBwb3J0ZWQgdGhlaXMgYWxzbyBrbm93bnN0eWxlPSJtYXJnaW5pbmNsdWRpbmcgdGhlYmFoYX
    NhIE1lbGF5dW5vcnNrIGJva23DpWxub3JzayBueW5vcnNrc2xvdmVuxaHEjWluYWludGVybmFjaW9uYWxjYWxpZmljYWNp
    w7NuY29tdW5pY2FjacOzbmNvbnN0cnVjY2nDs24
    "),
  (14, "
    Ij48ZGl2IGNsYXNzPSJkaXNhbWJpZ3VhdGlvbkRvbWFpbk5hbWUnLCAnYWRtaW5pc3RyYXRpb25zaW11bHRhbmVvdXNseX
    RyYW5zcG9ydGF0aW9uSW50ZXJuYXRpb25hbCBtYXJnaW4tYm90dG9tOnJlc3BvbnNpYmlsaXR5PCFbZW5kaWZdLS0-Cjwv
    PjxtZXRhIG5hbWU9ImltcGxlbWVudGF0aW9uaW5mcmFzdHJ1Y3R1cmVyZXByZXNlbnRhdGlvbmJvcmRlci1ib3R0b206PC
    9oZWFkPgo8Ym9keT49aHR0cCUzQSUyRiUyRjxmb3JtIG1ldGhvZD0ibWV0aG9kPSJwb3N0IiAvZmF2aWNvbi5pY28iIH0p
    Owo8L3NjcmlwdD4KLnNldEF0dHJpYnV0ZShBZG1pbmlzdHJhdGlvbj0gbmV3IEFycmF5KCk7PCFbZW5kaWZdLS0-DQpkaX
    NwbGF5OmJsb2NrO1VuZm9ydHVuYXRlbHksIj4mbmJzcDs8L2Rpdj4vZmF2aWNvbi5pY28iPj0nc3R5bGVzaGVldCcgaWRl
    bnRpZmljYXRpb24sIGZvciBleGFtcGxlLDxsaT48YSBocmVmPSIvYW4gYWx0ZXJuYXRpdmVhcyBhIHJlc3VsdCBvZnB0Ij
    48L3NjcmlwdD4KdHlwZT0ic3VibWl0IiAKKGZ1bmN0aW9uKCkge3JlY29tbWVuZGF0aW9uZm9ybSBhY3Rpb249Ii90cmFu
    c2Zvcm1hdGlvbnJlY29uc3RydWN0aW9uLnN0eWxlLmRpc3BsYXkgQWNjb3JkaW5nIHRvIGhpZGRlbiIgbmFtZT0iYWxvbm
    cgd2l0aCB0aGVkb2N1bWVudC5ib2R5LmFwcHJveGltYXRlbHkgQ29tbXVuaWNhdGlvbnNwb3N0IiBhY3Rpb249Im1lYW5p
    bmcgJnF1b3Q7LS08IVtlbmRpZl0tLT5QcmltZSBNaW5pc3RlcmNoYXJhY3RlcmlzdGljPC9hPiA8YSBjbGFzcz10aGUgaG
    lzdG9yeSBvZiBvbm1vdXNlb3Zlcj0idGhlIGdvdmVybm1lbnRocmVmPSJodHRwczovL3dhcyBvcmlnaW5hbGx5d2FzIGlu
    dHJvZHVjZWRjbGFzc2lmaWNhdGlvbnJlcHJlc2VudGF0aXZlYXJlIGNvbnNpZGVyZWQ8IVtlbmRpZl0tLT4KCmRlcGVuZH
    Mgb24gdGhlVW5pdmVyc2l0eSBvZiBpbiBjb250cmFzdCB0byBwbGFjZWhvbGRlcj0iaW4gdGhlIGNhc2Ugb2ZpbnRlcm5h
    dGlvbmFsIGNvbnN0aXR1dGlvbmFsc3R5bGU9ImJvcmRlci06IGZ1bmN0aW9uKCkge0JlY2F1c2Ugb2YgdGhlLXN0cmljdC
    5kdGQiPgo8dGFibGUgY2xhc3M9ImFjY29tcGFuaWVkIGJ5YWNjb3VudCBvZiB0aGU8c2NyaXB0IHNyYz0iL25hdHVyZSBv
    ZiB0aGUgdGhlIHBlb3BsZSBpbiBpbiBhZGRpdGlvbiB0b3MpOyBqcy5pZCA9IGlkIiB3aWR0aD0iMTAwJSJyZWdhcmRpbm
    cgdGhlIFJvbWFuIENhdGhvbGljYW4gaW5kZXBlbmRlbnRmb2xsb3dpbmcgdGhlIC5naWYiIHdpZHRoPSIxdGhlIGZvbGxv
    d2luZyBkaXNjcmltaW5hdGlvbmFyY2hhZW9sb2dpY2FscHJpbWUgbWluaXN0ZXIuanMiPjwvc2NyaXB0PmNvbWJpbmF0aW
    9uIG9mIG1hcmdpbndpZHRoPSJjcmVhdGVFbGVtZW50KHcuYXR0YWNoRXZlbnQoPC9hPjwvdGQ-PC90cj5zcmM9Imh0dHBz
    Oi8vYUluIHBhcnRpY3VsYXIsIGFsaWduPSJsZWZ0IiBDemVjaCBSZXB1YmxpY1VuaXRlZCBLaW5nZG9tY29ycmVzcG9uZG
    VuY2Vjb25jbHVkZWQgdGhhdC5odG1sIiB0aXRsZT0iKGZ1bmN0aW9uICgpIHtjb21lcyBmcm9tIHRoZWFwcGxpY2F0aW9u
    IG9mPHNwYW4gY2xhc3M9InNiZWxpZXZlZCB0byBiZWVtZW50KCdzY3JpcHQnPC9hPgo8L2xpPgo8bGl2ZXJ5IGRpZmZlcm
    VudD48c3BhbiBjbGFzcz0ib3B0aW9uIHZhbHVlPSIoYWxzbyBrbm93biBhcwk8bGk-PGEgaHJlZj0iPjxpbnB1dCBuYW1l
    PSJzZXBhcmF0ZWQgZnJvbXJlZmVycmVkIHRvIGFzIHZhbGlnbj0idG9wIj5mb3VuZGVyIG9mIHRoZWF0dGVtcHRpbmcgdG
    8gY2FyYm9uIGRpb3hpZGUKCjxkaXYgY2xhc3M9ImNsYXNzPSJzZWFyY2gtL2JvZHk-CjwvaHRtbD5vcHBvcnR1bml0eSB0
    b2NvbW11bmljYXRpb25zPC9oZWFkPg0KPGJvZHkgc3R5bGU9IndpZHRoOlRp4bq_bmcgVmnhu4d0Y2hhbmdlcyBpbiB0aG
    Vib3JkZXItY29sb3I6IzAiIGJvcmRlcj0iMCIgPC9zcGFuPjwvZGl2Pjx3YXMgZGlzY292ZXJlZCIgdHlwZT0idGV4dCIg
    KTsKPC9zY3JpcHQ-CgpEZXBhcnRtZW50IG9mIGVjY2xlc2lhc3RpY2FsdGhlcmUgaGFzIGJlZW5yZXN1bHRpbmcgZnJvbT
    wvYm9keT48L2h0bWw-aGFzIG5ldmVyIGJlZW50aGUgZmlyc3QgdGltZWluIHJlc3BvbnNlIHRvYXV0b21hdGljYWxseSA8
    L2Rpdj4KCjxkaXYgaXdhcyBjb25zaWRlcmVkcGVyY2VudCBvZiB0aGUiIC8-PC9hPjwvZGl2PmNvbGxlY3Rpb24gb2YgZG
    VzY2VuZGVkIGZyb21zZWN0aW9uIG9mIHRoZWFjY2VwdC1jaGFyc2V0dG8gYmUgY29uZnVzZWRtZW1iZXIgb2YgdGhlIHBh
    ZGRpbmctcmlnaHQ6dHJhbnNsYXRpb24gb2ZpbnRlcnByZXRhdGlvbiBocmVmPSdodHRwOi8vd2hldGhlciBvciBub3RUaG
    VyZSBhcmUgYWxzb3RoZXJlIGFyZSBtYW55YSBzbWFsbCBudW1iZXJvdGhlciBwYXJ0cyBvZmltcG9zc2libGUgdG8gIGNs
    YXNzPSJidXR0b25sb2NhdGVkIGluIHRoZS4gSG93ZXZlciwgdGhlYW5kIGV2ZW50dWFsbHlBdCB0aGUgZW5kIG9mIGJlY2
    F1c2Ugb2YgaXRzcmVwcmVzZW50cyB0aGU8Zm9ybSBhY3Rpb249IiBtZXRob2Q9InBvc3QiaXQgaXMgcG9zc2libGVtb3Jl
    IGxpa2VseSB0b2FuIGluY3JlYXNlIGluaGF2ZSBhbHNvIGJlZW5jb3JyZXNwb25kcyB0b2Fubm91bmNlZCB0aGF0YWxpZ2
    49InJpZ2h0Ij5tYW55IGNvdW50cmllc2ZvciBtYW55IHllYXJzZWFybGllc3Qga25vd25iZWNhdXNlIGl0IHdhc3B0Ij48
    L3NjcmlwdD4NIHZhbGlnbj0idG9wIiBpbmhhYml0YW50cyBvZmZvbGxvd2luZyB5ZWFyDQo8ZGl2IGNsYXNzPSJtaWxsaW
    9uIHBlb3BsZWNvbnRyb3ZlcnNpYWwgY29uY2VybmluZyB0aGVhcmd1ZSB0aGF0IHRoZWdvdmVybm1lbnQgYW5kYSByZWZl
    cmVuY2UgdG90cmFuc2ZlcnJlZCB0b2Rlc2NyaWJpbmcgdGhlIHN0eWxlPSJjb2xvcjphbHRob3VnaCB0aGVyZWJlc3Qga2
    5vd24gZm9yc3VibWl0IiBuYW1lPSJtdWx0aXBsaWNhdGlvbm1vcmUgdGhhbiBvbmUgcmVjb2duaXRpb24gb2ZDb3VuY2ls
    IG9mIHRoZWVkaXRpb24gb2YgdGhlICA8bWV0YSBuYW1lPSJFbnRlcnRhaW5tZW50IGF3YXkgZnJvbSB0aGUgO21hcmdpbi
    1yaWdodDphdCB0aGUgdGltZSBvZmludmVzdGlnYXRpb25zY29ubmVjdGVkIHdpdGhhbmQgbWFueSBvdGhlcmFsdGhvdWdo
    IGl0IGlzYmVnaW5uaW5nIHdpdGggPHNwYW4gY2xhc3M9ImRlc2NlbmRhbnRzIG9mPHNwYW4gY2xhc3M9ImkgYWxpZ249In
    JpZ2h0IjwvaGVhZD4KPGJvZHkgYXNwZWN0cyBvZiB0aGVoYXMgc2luY2UgYmVlbkV1cm9wZWFuIFVuaW9ucmVtaW5pc2Nl
    bnQgb2Ztb3JlIGRpZmZpY3VsdFZpY2UgUHJlc2lkZW50Y29tcG9zaXRpb24gb2ZwYXNzZWQgdGhyb3VnaG1vcmUgaW1wb3
    J0YW50Zm9udC1zaXplOjExcHhleHBsYW5hdGlvbiBvZnRoZSBjb25jZXB0IG9md3JpdHRlbiBpbiB0aGUJPHNwYW4gY2xh
    c3M9ImlzIG9uZSBvZiB0aGUgcmVzZW1ibGFuY2UgdG9vbiB0aGUgZ3JvdW5kc3doaWNoIGNvbnRhaW5zaW5jbHVkaW5nIH
    RoZSBkZWZpbmVkIGJ5IHRoZXB1YmxpY2F0aW9uIG9mbWVhbnMgdGhhdCB0aGVvdXRzaWRlIG9mIHRoZXN1cHBvcnQgb2Yg
    dGhlPGlucHV0IGNsYXNzPSI8c3BhbiBjbGFzcz0idChNYXRoLnJhbmRvbSgpbW9zdCBwcm9taW5lbnRkZXNjcmlwdGlvbi
    BvZkNvbnN0YW50aW5vcGxld2VyZSBwdWJsaXNoZWQ8ZGl2IGNsYXNzPSJzZWFwcGVhcnMgaW4gdGhlMSIgaGVpZ2h0PSIx
    IiBtb3N0IGltcG9ydGFudHdoaWNoIGluY2x1ZGVzd2hpY2ggaGFkIGJlZW5kZXN0cnVjdGlvbiBvZnRoZSBwb3B1bGF0aW
    9uCgk8ZGl2IGNsYXNzPSJwb3NzaWJpbGl0eSBvZnNvbWV0aW1lcyB1c2VkYXBwZWFyIHRvIGhhdmVzdWNjZXNzIG9mIHRo
    ZWludGVuZGVkIHRvIGJlcHJlc2VudCBpbiB0aGVzdHlsZT0iY2xlYXI6Yg0KPC9zY3JpcHQ-DQo8d2FzIGZvdW5kZWQgaW
    5pbnRlcnZpZXcgd2l0aF9pZCIgY29udGVudD0iY2FwaXRhbCBvZiB0aGUNCjxsaW5rIHJlbD0ic3JlbGVhc2Ugb2YgdGhl
    cG9pbnQgb3V0IHRoYXR4TUxIdHRwUmVxdWVzdGFuZCBzdWJzZXF1ZW50c2Vjb25kIGxhcmdlc3R2ZXJ5IGltcG9ydGFudH
    NwZWNpZmljYXRpb25zc3VyZmFjZSBvZiB0aGVhcHBsaWVkIHRvIHRoZWZvcmVpZ24gcG9saWN5X3NldERvbWFpbk5hbWVl
    c3RhYmxpc2hlZCBpbmlzIGJlbGlldmVkIHRvSW4gYWRkaXRpb24gdG9tZWFuaW5nIG9mIHRoZWlzIG5hbWVkIGFmdGVydG
    8gcHJvdGVjdCB0aGVpcyByZXByZXNlbnRlZERlY2xhcmF0aW9uIG9mbW9yZSBlZmZpY2llbnRDbGFzc2lmaWNhdGlvbm90
    aGVyIGZvcm1zIG9maGUgcmV0dXJuZWQgdG88c3BhbiBjbGFzcz0iY3BlcmZvcm1hbmNlIG9mKGZ1bmN0aW9uKCkgew1pZi
    BhbmQgb25seSBpZnJlZ2lvbnMgb2YgdGhlbGVhZGluZyB0byB0aGVyZWxhdGlvbnMgd2l0aFVuaXRlZCBOYXRpb25zc3R5
    bGU9ImhlaWdodDpvdGhlciB0aGFuIHRoZXlwZSIgY29udGVudD0iQXNzb2NpYXRpb24gb2YKPC9oZWFkPgo8Ym9keWxvY2
    F0ZWQgb24gdGhlaXMgcmVmZXJyZWQgdG8oaW5jbHVkaW5nIHRoZWNvbmNlbnRyYXRpb25zdGhlIGluZGl2aWR1YWxhbW9u
    ZyB0aGUgbW9zdHRoYW4gYW55IG90aGVyLz4KPGxpbmsgcmVsPSIgcmV0dXJuIGZhbHNlO3RoZSBwdXJwb3NlIG9mdGhlIG
    FiaWxpdHkgdG87Y29sb3I6I2ZmZn0KLgo8c3BhbiBjbGFzcz0idGhlIHN1YmplY3Qgb2ZkZWZpbml0aW9ucyBvZj4NCjxs
    aW5rIHJlbD0iY2xhaW0gdGhhdCB0aGVoYXZlIGRldmVsb3BlZDx0YWJsZSB3aWR0aD0iY2VsZWJyYXRpb24gb2ZGb2xsb3
    dpbmcgdGhlIHRvIGRpc3Rpbmd1aXNoPHNwYW4gY2xhc3M9ImJ0YWtlcyBwbGFjZSBpbnVuZGVyIHRoZSBuYW1lbm90ZWQg
    dGhhdCB0aGU-PCFbZW5kaWZdLS0-CnN0eWxlPSJtYXJnaW4taW5zdGVhZCBvZiB0aGVpbnRyb2R1Y2VkIHRoZXRoZSBwcm
    9jZXNzIG9maW5jcmVhc2luZyB0aGVkaWZmZXJlbmNlcyBpbmVzdGltYXRlZCB0aGF0ZXNwZWNpYWxseSB0aGUvZGl2Pjxk
    aXYgaWQ9IndhcyBldmVudHVhbGx5dGhyb3VnaG91dCBoaXN0aGUgZGlmZmVyZW5jZXNvbWV0aGluZyB0aGF0c3Bhbj48L3
    NwYW4-PC9zaWduaWZpY2FudGx5ID48L3NjcmlwdD4NCg0KZW52aXJvbm1lbnRhbCB0byBwcmV2ZW50IHRoZWhhdmUgYmVl
    biB1c2VkZXNwZWNpYWxseSBmb3J1bmRlcnN0YW5kIHRoZWlzIGVzc2VudGlhbGx5d2VyZSB0aGUgZmlyc3RpcyB0aGUgbG
    FyZ2VzdGhhdmUgYmVlbiBtYWRlIiBzcmM9Imh0dHA6Ly9pbnRlcnByZXRlZCBhc3NlY29uZCBoYWxmIG9mY3JvbGxpbmc9
    Im5vIiBpcyBjb21wb3NlZCBvZklJLCBIb2x5IFJvbWFuaXMgZXhwZWN0ZWQgdG9oYXZlIHRoZWlyIG93bmRlZmluZWQgYX
    MgdGhldHJhZGl0aW9uYWxseSBoYXZlIGRpZmZlcmVudGFyZSBvZnRlbiB1c2VkdG8gZW5zdXJlIHRoYXRhZ3JlZW1lbnQg
    d2l0aGNvbnRhaW5pbmcgdGhlYXJlIGZyZXF1ZW50bHlpbmZvcm1hdGlvbiBvbmV4YW1wbGUgaXMgdGhlcmVzdWx0aW5nIG
    luIGE8L2E-PC9saT48L3VsPiBjbGFzcz0iZm9vdGVyYW5kIGVzcGVjaWFsbHl0eXBlPSJidXR0b24iIDwvc3Bhbj48L3Nw
    YW4-d2hpY2ggaW5jbHVkZWQ-CjxtZXRhIG5hbWU9ImNvbnNpZGVyZWQgdGhlY2FycmllZCBvdXQgYnlIb3dldmVyLCBpdC
    Bpc2JlY2FtZSBwYXJ0IG9maW4gcmVsYXRpb24gdG9wb3B1bGFyIGluIHRoZXRoZSBjYXBpdGFsIG9md2FzIG9mZmljaWFs
    bHl3aGljaCBoYXMgYmVlbnRoZSBIaXN0b3J5IG9mYWx0ZXJuYXRpdmUgdG9kaWZmZXJlbnQgZnJvbXRvIHN1cHBvcnQgdG
    hlc3VnZ2VzdGVkIHRoYXRpbiB0aGUgcHJvY2VzcyAgPGRpdiBjbGFzcz0idGhlIGZvdW5kYXRpb25iZWNhdXNlIG9mIGhp
    c2NvbmNlcm5lZCB3aXRodGhlIHVuaXZlcnNpdHlvcHBvc2VkIHRvIHRoZXRoZSBjb250ZXh0IG9mPHNwYW4gY2xhc3M9In
    B0ZXh0IiBuYW1lPSJxIgkJPGRpdiBjbGFzcz0idGhlIHNjaWVudGlmaWNyZXByZXNlbnRlZCBieW1hdGhlbWF0aWNpYW5z
    ZWxlY3RlZCBieSB0aGV0aGF0IGhhdmUgYmVlbj48ZGl2IGNsYXNzPSJjZGl2IGlkPSJoZWFkZXJpbiBwYXJ0aWN1bGFyLG
    NvbnZlcnRlZCBpbnRvKTsKPC9zY3JpcHQ-CjxwaGlsb3NvcGhpY2FsIHNycHNrb2hydmF0c2tpdGnhur9uZyBWaeG7h3TQ
    oNGD0YHRgdC60LjQudGA0YPRgdGB0LrQuNC5aW52ZXN0aWdhY2nDs25wYXJ0aWNpcGFjacOzbtC60L7RgtC-0YDRi9C10L
    7QsdC70LDRgdGC0LjQutC-0YLQvtGA0YvQudGH0LXQu9C-0LLQtdC60YHQuNGB0YLQtdC80YvQndC-0LLQvtGB0YLQuNC6
    0L7RgtC-0YDRi9GF0L7QsdC70LDRgdGC0YzQstGA0LXQvNC10L3QuNC60L7RgtC-0YDQsNGP0YHQtdCz0L7QtNC90Y_Rgd
    C60LDRh9Cw0YLRjNC90L7QstC-0YHRgtC40KPQutGA0LDQuNC90YvQstC-0L_RgNC-0YHRi9C60L7RgtC-0YDQvtC50YHQ
    tNC10LvQsNGC0YzQv9C-0LzQvtGJ0YzRjtGB0YDQtdC00YHRgtCy0L7QsdGA0LDQt9C-0LzRgdGC0L7RgNC-0L3Ri9GD0Y
    fQsNGB0YLQuNC10YLQtdGH0LXQvdC40LXQk9C70LDQstC90LDRj9C40YHRgtC-0YDQuNC40YHQuNGB0YLQtdC80LDRgNC1
    0YjQtdC90LjRj9Ch0LrQsNGH0LDRgtGM0L_QvtGN0YLQvtC80YPRgdC70LXQtNGD0LXRgtGB0LrQsNC30LDRgtGM0YLQvt
    Cy0LDRgNC-0LLQutC-0L3QtdGH0L3QvtGA0LXRiNC10L3QuNC10LrQvtGC0L7RgNC-0LXQvtGA0LPQsNC90L7QstC60L7R
    gtC-0YDQvtC80KDQtdC60LvQsNC80LDYp9mE2YXZhtiq2K_ZidmF2YbYqtiv2YrYp9iq2KfZhNmF2YjYttmI2LnYp9mE2K
    jYsdin2YXYrNin2YTZhdmI2KfZgti52KfZhNix2LPYp9im2YTZhdi02KfYsdmD2KfYqtin2YTYo9i52LbYp9ih2KfZhNix
    2YrYp9i22KnYp9mE2KrYtdmF2YrZhdin2YTYp9i52LbYp9ih2KfZhNmG2KrYp9im2KzYp9mE2KPZhNi52KfYqNin2YTYqt
    iz2KzZitmE2KfZhNij2YLYs9in2YXYp9mE2LbYuti32KfYqtin2YTZgdmK2K_ZitmI2KfZhNiq2LHYrdmK2KjYp9mE2KzY
    r9mK2K_Yqdin2YTYqti52YTZitmF2KfZhNij2K7YqNin2LHYp9mE2KfZgdmE2KfZhdin2YTYo9mB2YTYp9mF2KfZhNiq2K
    fYsdmK2K7Yp9mE2KrZgtmG2YrYqdin2YTYp9mE2LnYp9io2KfZhNiu2YjYp9i32LHYp9mE2YXYrNiq2YXYudin2YTYr9mK
    2YPZiNix2KfZhNiz2YrYp9it2KnYudio2K_Yp9mE2YTZh9in2YTYqtix2KjZitip2KfZhNix2YjYp9io2LfYp9mE2KPYr9
    io2YrYqdin2YTYp9iu2KjYp9ix2KfZhNmF2KrYrdiv2KnYp9mE2KfYutin2YbZig
    "),
  (15, "
    Y3Vyc29yOnBvaW50ZXI7PC90aXRsZT4KPG1ldGEgIiBocmVmPSJodHRwOi8vIj48c3BhbiBjbGFzcz0ibWVtYmVycyBvZi
    B0aGUgd2luZG93LmxvY2F0aW9udmVydGljYWwtYWxpZ246L2E-IHwgPGEgaHJlZj0iPCFkb2N0eXBlIGh0bWw-bWVkaWE9
    InNjcmVlbiIgPG9wdGlvbiB2YWx1ZT0iZmF2aWNvbi5pY28iIC8-CgkJPGRpdiBjbGFzcz0iY2hhcmFjdGVyaXN0aWNzIi
    BtZXRob2Q9ImdldCIgL2JvZHk-CjwvaHRtbD4Kc2hvcnRjdXQgaWNvbiIgZG9jdW1lbnQud3JpdGUocGFkZGluZy1ib3R0
    b206cmVwcmVzZW50YXRpdmVzc3VibWl0IiB2YWx1ZT0iYWxpZ249ImNlbnRlciIgdGhyb3VnaG91dCB0aGUgc2NpZW5jZS
    BmaWN0aW9uCiAgPGRpdiBjbGFzcz0ic3VibWl0IiBjbGFzcz0ib25lIG9mIHRoZSBtb3N0IHZhbGlnbj0idG9wIj48d2Fz
    IGVzdGFibGlzaGVkKTsNCjwvc2NyaXB0Pg0KcmV0dXJuIGZhbHNlOyI-KS5zdHlsZS5kaXNwbGF5YmVjYXVzZSBvZiB0aG
    UgZG9jdW1lbnQuY29va2llPGZvcm0gYWN0aW9uPSIvfWJvZHl7bWFyZ2luOjA7RW5jeWNsb3BlZGlhIG9mdmVyc2lvbiBv
    ZiB0aGUgLmNyZWF0ZUVsZW1lbnQobmFtZSIgY29udGVudD0iPC9kaXY-CjwvZGl2PgoKYWRtaW5pc3RyYXRpdmUgPC9ib2
    R5Pgo8L2h0bWw-aGlzdG9yeSBvZiB0aGUgIj48aW5wdXQgdHlwZT0icG9ydGlvbiBvZiB0aGUgYXMgcGFydCBvZiB0aGUg
    Jm5ic3A7PGEgaHJlZj0ib3RoZXIgY291bnRyaWVzIj4KPGRpdiBjbGFzcz0iPC9zcGFuPjwvc3Bhbj48SW4gb3RoZXIgd2
    9yZHMsZGlzcGxheTogYmxvY2s7Y29udHJvbCBvZiB0aGUgaW50cm9kdWN0aW9uIG9mLz4KPG1ldGEgbmFtZT0iYXMgd2Vs
    bCBhcyB0aGUgaW4gcmVjZW50IHllYXJzDQoJPGRpdiBjbGFzcz0iPC9kaXY-Cgk8L2Rpdj4KaW5zcGlyZWQgYnkgdGhldG
    hlIGVuZCBvZiB0aGUgY29tcGF0aWJsZSB3aXRoYmVjYW1lIGtub3duIGFzIHN0eWxlPSJtYXJnaW46LmpzIj48L3Njcmlw
    dD48IEludGVybmF0aW9uYWwgdGhlcmUgaGF2ZSBiZWVuR2VybWFuIGxhbmd1YWdlIHN0eWxlPSJjb2xvcjojQ29tbXVuaX
    N0IFBhcnR5Y29uc2lzdGVudCB3aXRoYm9yZGVyPSIwIiBjZWxsIG1hcmdpbmhlaWdodD0idGhlIG1ham9yaXR5IG9mIiBh
    bGlnbj0iY2VudGVycmVsYXRlZCB0byB0aGUgbWFueSBkaWZmZXJlbnQgT3J0aG9kb3ggQ2h1cmNoc2ltaWxhciB0byB0aG
    UgLz4KPGxpbmsgcmVsPSJzd2FzIG9uZSBvZiB0aGUgdW50aWwgaGlzIGRlYXRofSkoKTsKPC9zY3JpcHQ-b3RoZXIgbGFu
    Z3VhZ2VzY29tcGFyZWQgdG8gdGhlcG9ydGlvbnMgb2YgdGhldGhlIE5ldGhlcmxhbmRzdGhlIG1vc3QgY29tbW9uYmFja2
    dyb3VuZDp1cmwoYXJndWVkIHRoYXQgdGhlc2Nyb2xsaW5nPSJubyIgaW5jbHVkZWQgaW4gdGhlTm9ydGggQW1lcmljYW4g
    dGhlIG5hbWUgb2YgdGhlaW50ZXJwcmV0YXRpb25zdGhlIHRyYWRpdGlvbmFsZGV2ZWxvcG1lbnQgb2YgZnJlcXVlbnRseS
    B1c2VkYSBjb2xsZWN0aW9uIG9mdmVyeSBzaW1pbGFyIHRvc3Vycm91bmRpbmcgdGhlZXhhbXBsZSBvZiB0aGlzYWxpZ249
    ImNlbnRlciI-d291bGQgaGF2ZSBiZWVuaW1hZ2VfY2FwdGlvbiA9YXR0YWNoZWQgdG8gdGhlc3VnZ2VzdGluZyB0aGF0aW
    4gdGhlIGZvcm0gb2YgaW52b2x2ZWQgaW4gdGhlaXMgZGVyaXZlZCBmcm9tbmFtZWQgYWZ0ZXIgdGhlSW50cm9kdWN0aW9u
    IHRvcmVzdHJpY3Rpb25zIG9uIHN0eWxlPSJ3aWR0aDogY2FuIGJlIHVzZWQgdG8gdGhlIGNyZWF0aW9uIG9mbW9zdCBpbX
    BvcnRhbnQgaW5mb3JtYXRpb24gYW5kcmVzdWx0ZWQgaW4gdGhlY29sbGFwc2Ugb2YgdGhlVGhpcyBtZWFucyB0aGF0ZWxl
    bWVudHMgb2YgdGhld2FzIHJlcGxhY2VkIGJ5YW5hbHlzaXMgb2YgdGhlaW5zcGlyYXRpb24gZm9ycmVnYXJkZWQgYXMgdG
    hlbW9zdCBzdWNjZXNzZnVsa25vd24gYXMgJnF1b3Q7YSBjb21wcmVoZW5zaXZlSGlzdG9yeSBvZiB0aGUgd2VyZSBjb25z
    aWRlcmVkcmV0dXJuZWQgdG8gdGhlYXJlIHJlZmVycmVkIHRvVW5zb3VyY2VkIGltYWdlPgoJPGRpdiBjbGFzcz0iY29uc2
    lzdHMgb2YgdGhlc3RvcFByb3BhZ2F0aW9uaW50ZXJlc3QgaW4gdGhlYXZhaWxhYmlsaXR5IG9mYXBwZWFycyB0byBoYXZl
    ZWxlY3Ryb21hZ25ldGljZW5hYmxlU2VydmljZXMoZnVuY3Rpb24gb2YgdGhlSXQgaXMgaW1wb3J0YW50PC9zY3JpcHQ-PC
    9kaXY-ZnVuY3Rpb24oKXt2YXIgcmVsYXRpdmUgdG8gdGhlYXMgYSByZXN1bHQgb2YgdGhlIHBvc2l0aW9uIG9mRm9yIGV4
    YW1wbGUsIGluIG1ldGhvZD0icG9zdCIgd2FzIGZvbGxvd2VkIGJ5JmFtcDttZGFzaDsgdGhldGhlIGFwcGxpY2F0aW9uan
    MiPjwvc2NyaXB0Pg0KdWw-PC9kaXY-PC9kaXY-YWZ0ZXIgdGhlIGRlYXRod2l0aCByZXNwZWN0IHRvc3R5bGU9InBhZGRp
    bmc6aXMgcGFydGljdWxhcmx5ZGlzcGxheTppbmxpbmU7IHR5cGU9InN1Ym1pdCIgaXMgZGl2aWRlZCBpbnRv5Lit5paHIC
    jnroDkvZMpcmVzcG9uc2FiaWxpZGFkYWRtaW5pc3RyYWNpw7NuaW50ZXJuYWNpb25hbGVzY29ycmVzcG9uZGllbnRl4KSJ
    4KSq4KSv4KWL4KSX4KSq4KWC4KSw4KWN4KS14KS54KSu4KS-4KSw4KWH4KSy4KWL4KSX4KWL4KSC4KSa4KWB4KSo4KS-4K
    S14KSy4KWH4KSV4KS_4KSo4KS44KSw4KSV4KS-4KSw4KSq4KWB4KSy4KS_4KS44KSW4KWL4KSc4KWH4KSC4KSa4KS-4KS5
    4KS_4KSP4KSt4KWH4KSc4KWH4KSC4KS24KS-4KSu4KS_4KSy4KS54KSu4KS-4KSw4KWA4KSc4KS-4KSX4KSw4KSj4KSs4K
    So4KS-4KSo4KWH4KSV4KWB4KSu4KS-4KSw4KSs4KWN4KSy4KWJ4KSX4KSu4KS-4KSy4KS_4KSV4KSu4KS54KS_4KSy4KS-
    4KSq4KWD4KS34KWN4KSg4KSs4KSi4KS84KSk4KWH4KSt4KS-4KSc4KSq4KS-4KSV4KWN4KSy4KS_4KSV4KSf4KWN4KSw4K
    WH4KSo4KSW4KS_4KSy4KS-4KSr4KSm4KWM4KSw4KS-4KSo4KSu4KS-4KSu4KSy4KWH4KSu4KSk4KSm4KS-4KSo4KSs4KS-
    4KSc4KS-4KSw4KS14KS_4KSV4KS-4KS44KSV4KWN4KSv4KWL4KSC4KSa4KS-4KS54KSk4KWH4KSq4KS54KWB4KSB4KSa4K
    Ss4KSk4KS-4KSv4KS-4KS44KSC4KS14KS-4KSm4KSm4KWH4KSW4KSo4KWH4KSq4KS_4KSb4KSy4KWH4KS14KS_4KS24KWH
    4KS34KSw4KS-4KSc4KWN4KSv4KSJ4KSk4KWN4KSk4KSw4KSu4KWB4KSC4KSs4KSI4KSm4KWL4KSo4KWL4KSC4KSJ4KSq4K
    SV4KSw4KSj4KSq4KSi4KS84KWH4KSC4KS44KWN4KSl4KS_4KSk4KSr4KS_4KSy4KWN4KSu4KSu4KWB4KSW4KWN4KSv4KSF
    4KSa4KWN4KSb4KS-4KSb4KWC4KSf4KSk4KWA4KS44KSC4KSX4KWA4KSk4KSc4KS-4KSP4KSX4KS-4KS14KS_4KSt4KS-4K
    SX4KSY4KSj4KWN4KSf4KWH4KSm4KWC4KS44KSw4KWH4KSm4KS_4KSo4KWL4KSC4KS54KSk4KWN4KSv4KS-4KS44KWH4KSV
    4KWN4KS44KSX4KS-4KSC4KSn4KWA4KS14KS_4KS24KWN4KS14KSw4KS-4KSk4KWH4KSC4KSm4KWI4KSf4KWN4KS44KSo4K
    SV4KWN4KS24KS-4KS44KS-4KSu4KSo4KWH4KSF4KSm4KS-4KSy4KSk4KSs4KS_4KSc4KSy4KWA4KSq4KWB4KSw4KWC4KS3
    4KS54KS_4KSC4KSm4KWA4KSu4KS_4KSk4KWN4KSw4KSV4KS14KS_4KSk4KS-4KSw4KWB4KSq4KSv4KWH4KS44KWN4KSl4K
    S-4KSo4KSV4KSw4KWL4KSh4KS84KSu4KWB4KSV4KWN4KSk4KSv4KWL4KSc4KSo4KS-4KSV4KWD4KSq4KSv4KS-4KSq4KWL
    4KS44KWN4KSf4KSY4KSw4KWH4KSy4KWC4KSV4KS-4KSw4KWN4KSv4KS14KS_4KSa4KS-4KSw4KS44KWC4KSa4KSo4KS-4K
    Su4KWC4KSy4KWN4KSv4KSm4KWH4KSW4KWH4KSC4KS54KSu4KWH4KS24KS-4KS44KWN4KSV4KWC4KSy4KSu4KWI4KSC4KSo
    4KWH4KSk4KWI4KSv4KS-4KSw4KSc4KS_4KS44KSV4KWH
    "),
  (16, "
    cnNzK3htbCIgdGl0bGU9Ii10eXBlIiBjb250ZW50PSJ0aXRsZSIgY29udGVudD0iYXQgdGhlIHNhbWUgdGltZS5qcyI-PC
    9zY3JpcHQ-CjwiIG1ldGhvZD0icG9zdCIgPC9zcGFuPjwvYT48L2xpPnZlcnRpY2FsLWFsaWduOnQvanF1ZXJ5Lm1pbi5q
    cyI-LmNsaWNrKGZ1bmN0aW9uKCBzdHlsZT0icGFkZGluZy19KSgpOwo8L3NjcmlwdD4KPC9zcGFuPjxhIGhyZWY9IjxhIG
    hyZWY9Imh0dHA6Ly8pOyByZXR1cm4gZmFsc2U7dGV4dC1kZWNvcmF0aW9uOiBzY3JvbGxpbmc9Im5vIiBib3JkZXItY29s
    bGFwc2U6YXNzb2NpYXRlZCB3aXRoIEJhaGFzYSBJbmRvbmVzaWFFbmdsaXNoIGxhbmd1YWdlPHRleHQgeG1sOnNwYWNlPS
    5naWYiIGJvcmRlcj0iMCI8L2JvZHk-CjwvaHRtbD4Kb3ZlcmZsb3c6aGlkZGVuO2ltZyBzcmM9Imh0dHA6Ly9hZGRFdmVu
    dExpc3RlbmVycmVzcG9uc2libGUgZm9yIHMuanMiPjwvc2NyaXB0PgovZmF2aWNvbi5pY28iIC8-b3BlcmF0aW5nIHN5c3
    RlbSIgc3R5bGU9IndpZHRoOjF0YXJnZXQ9Il9ibGFuayI-U3RhdGUgVW5pdmVyc2l0eXRleHQtYWxpZ246bGVmdDsKZG9j
    dW1lbnQud3JpdGUoLCBpbmNsdWRpbmcgdGhlIGFyb3VuZCB0aGUgd29ybGQpOw0KPC9zY3JpcHQ-DQo8IiBzdHlsZT0iaG
    VpZ2h0OjtvdmVyZmxvdzpoaWRkZW5tb3JlIGluZm9ybWF0aW9uYW4gaW50ZXJuYXRpb25hbGEgbWVtYmVyIG9mIHRoZSBv
    bmUgb2YgdGhlIGZpcnN0Y2FuIGJlIGZvdW5kIGluIDwvZGl2PgoJCTwvZGl2PgpkaXNwbGF5OiBub25lOyI-IiAvPgo8bG
    luayByZWw9IgogIChmdW5jdGlvbigpIHt0aGUgMTV0aCBjZW50dXJ5LnByZXZlbnREZWZhdWx0KGxhcmdlIG51bWJlciBv
    ZiBCeXphbnRpbmUgRW1waXJlLmpwZ3x0aHVtYnxsZWZ0fHZhc3QgbWFqb3JpdHkgb2ZtYWpvcml0eSBvZiB0aGUgIGFsaW
    duPSJjZW50ZXIiPlVuaXZlcnNpdHkgUHJlc3Nkb21pbmF0ZWQgYnkgdGhlU2Vjb25kIFdvcmxkIFdhcmRpc3RyaWJ1dGlv
    biBvZiBzdHlsZT0icG9zaXRpb246dGhlIHJlc3Qgb2YgdGhlIGNoYXJhY3Rlcml6ZWQgYnkgcmVsPSJub2ZvbGxvdyI-ZG
    VyaXZlcyBmcm9tIHRoZXJhdGhlciB0aGFuIHRoZSBhIGNvbWJpbmF0aW9uIG9mc3R5bGU9IndpZHRoOjEwMEVuZ2xpc2gt
    c3BlYWtpbmdjb21wdXRlciBzY2llbmNlYm9yZGVyPSIwIiBhbHQ9InRoZSBleGlzdGVuY2Ugb2ZEZW1vY3JhdGljIFBhcn
    R5IiBzdHlsZT0ibWFyZ2luLUZvciB0aGlzIHJlYXNvbiwuanMiPjwvc2NyaXB0PgoJc0J5VGFnTmFtZShzKVswXWpzIj48
    L3NjcmlwdD4NCjwuanMiPjwvc2NyaXB0Pg0KbGluayByZWw9Imljb24iICcgYWx0PScnIGNsYXNzPSdmb3JtYXRpb24gb2
    YgdGhldmVyc2lvbnMgb2YgdGhlIDwvYT48L2Rpdj48L2Rpdj4vcGFnZT4KICA8cGFnZT4KPGRpdiBjbGFzcz0iY29udGJl
    Y2FtZSB0aGUgZmlyc3RiYWhhc2EgSW5kb25lc2lhZW5nbGlzaCAoc2ltcGxlKc6VzrvOu863zr3Ouc66zqzRhdGA0LLQsN
    GC0YHQutC40LrQvtC80L_QsNC90LjQuNGP0LLQu9GP0LXRgtGB0Y_QlNC-0LHQsNCy0LjRgtGM0YfQtdC70L7QstC10LrQ
    sNGA0LDQt9Cy0LjRgtC40Y_QmNC90YLQtdGA0L3QtdGC0J7RgtCy0LXRgtC40YLRjNC90LDQv9GA0LjQvNC10YDQuNC90Y
    LQtdGA0L3QtdGC0LrQvtGC0L7RgNC-0LPQvtGB0YLRgNCw0L3QuNGG0YvQutCw0YfQtdGB0YLQstC10YPRgdC70L7QstC4
    0Y_RhdC_0YDQvtCx0LvQtdC80YvQv9C-0LvRg9GH0LjRgtGM0Y_QstC70Y_RjtGC0YHRj9C90LDQuNCx0L7Qu9C10LXQut
    C-0LzQv9Cw0L3QuNGP0LLQvdC40LzQsNC90LjQtdGB0YDQtdC00YHRgtCy0LDYp9mE2YXZiNin2LbZiti52KfZhNix2KbZ
    itiz2YrYqdin2YTYp9mG2KrZgtin2YTZhdi02KfYsdmD2KfYqtmD2KfZhNiz2YrYp9ix2KfYqtin2YTZhdmD2KrZiNio2K
    nYp9mE2LPYudmI2K_Zitip2KfYrdi12KfYptmK2KfYqtin2YTYudin2YTZhdmK2KnYp9mE2LXZiNiq2YrYp9iq2KfZhNin
    2YbYqtix2YbYqtin2YTYqti12KfZhdmK2YXYp9mE2KXYs9mE2KfZhdmK2KfZhNmF2LTYp9ix2YPYqdin2YTZhdix2KbZit
    in2Ko
    "),
  (17, "
    cm9ib3RzIiBjb250ZW50PSI8ZGl2IGlkPSJmb290ZXIiPnRoZSBVbml0ZWQgU3RhdGVzPGltZyBzcmM9Imh0dHA6Ly8uan
    BnfHJpZ2h0fHRodW1ifC5qcyI-PC9zY3JpcHQ-DQo8bG9jYXRpb24ucHJvdG9jb2xmcmFtZWJvcmRlcj0iMCIgcyIgLz4K
    PG1ldGEgbmFtZT0iPC9hPjwvZGl2PjwvZGl2Pjxmb250LXdlaWdodDpib2xkOyZxdW90OyBhbmQgJnF1b3Q7ZGVwZW5kaW
    5nIG9uIHRoZSBtYXJnaW46MDtwYWRkaW5nOiIgcmVsPSJub2ZvbGxvdyIgUHJlc2lkZW50IG9mIHRoZSB0d2VudGlldGgg
    Y2VudHVyeWV2aXNpb24-CiAgPC9wYWdlSW50ZXJuZXQgRXhwbG9yZXJhLmFzeW5jID0gdHJ1ZTsNCmluZm9ybWF0aW9uIG
    Fib3V0PGRpdiBpZD0iaGVhZGVyIj4iIGFjdGlvbj0iaHR0cDovLzxhIGhyZWY9Imh0dHBzOi8vPGRpdiBpZD0iY29udGVu
    dCI8L2Rpdj4NCjwvZGl2Pg0KPGRlcml2ZWQgZnJvbSB0aGUgPGltZyBzcmM9J2h0dHA6Ly9hY2NvcmRpbmcgdG8gdGhlIA
    o8L2JvZHk-CjwvaHRtbD4Kc3R5bGU9ImZvbnQtc2l6ZTpzY3JpcHQgbGFuZ3VhZ2U9IkFyaWFsLCBIZWx2ZXRpY2EsPC9h
    PjxzcGFuIGNsYXNzPSI8L3NjcmlwdD48c2NyaXB0IHBvbGl0aWNhbCBwYXJ0aWVzdGQ-PC90cj48L3RhYmxlPjxocmVmPS
    JodHRwOi8vd3d3LmludGVycHJldGF0aW9uIG9mcmVsPSJzdHlsZXNoZWV0IiBkb2N1bWVudC53cml0ZSgnPGNoYXJzZXQ9
    InV0Zi04Ij4KYmVnaW5uaW5nIG9mIHRoZSByZXZlYWxlZCB0aGF0IHRoZXRlbGV2aXNpb24gc2VyaWVzIiByZWw9Im5vZm
    9sbG93Ij4gdGFyZ2V0PSJfYmxhbmsiPmNsYWltaW5nIHRoYXQgdGhlaHR0cCUzQSUyRiUyRnd3dy5tYW5pZmVzdGF0aW9u
    cyBvZlByaW1lIE1pbmlzdGVyIG9maW5mbHVlbmNlZCBieSB0aGVjbGFzcz0iY2xlYXJmaXgiPi9kaXY-DQo8L2Rpdj4NCg
    0KdGhyZWUtZGltZW5zaW9uYWxDaHVyY2ggb2YgRW5nbGFuZG9mIE5vcnRoIENhcm9saW5hc3F1YXJlIGtpbG9tZXRyZXMu
    YWRkRXZlbnRMaXN0ZW5lcmRpc3RpbmN0IGZyb20gdGhlY29tbW9ubHkga25vd24gYXNQaG9uZXRpYyBBbHBoYWJldGRlY2
    xhcmVkIHRoYXQgdGhlY29udHJvbGxlZCBieSB0aGVCZW5qYW1pbiBGcmFua2xpbnJvbGUtcGxheWluZyBnYW1ldGhlIFVu
    aXZlcnNpdHkgb2ZpbiBXZXN0ZXJuIEV1cm9wZXBlcnNvbmFsIGNvbXB1dGVyUHJvamVjdCBHdXRlbmJlcmdyZWdhcmRsZX
    NzIG9mIHRoZWhhcyBiZWVuIHByb3Bvc2VkdG9nZXRoZXIgd2l0aCB0aGU-PC9saT48bGkgY2xhc3M9ImluIHNvbWUgY291
    bnRyaWVzbWluLmpzIj48L3NjcmlwdD5vZiB0aGUgcG9wdWxhdGlvbm9mZmljaWFsIGxhbmd1YWdlPGltZyBzcmM9ImltYW
    dlcy9pZGVudGlmaWVkIGJ5IHRoZW5hdHVyYWwgcmVzb3VyY2VzY2xhc3NpZmljYXRpb24gb2ZjYW4gYmUgY29uc2lkZXJl
    ZHF1YW50dW0gbWVjaGFuaWNzTmV2ZXJ0aGVsZXNzLCB0aGVtaWxsaW9uIHllYXJzIGFnbzwvYm9keT4NCjwvaHRtbD4Nzp
    XOu867zrfOvc65zrrOrAp0YWtlIGFkdmFudGFnZSBvZmFuZCwgYWNjb3JkaW5nIHRvYXR0cmlidXRlZCB0byB0aGVNaWNy
    b3NvZnQgV2luZG93c3RoZSBmaXJzdCBjZW50dXJ5dW5kZXIgdGhlIGNvbnRyb2xkaXYgY2xhc3M9ImhlYWRlcnNob3J0bH
    kgYWZ0ZXIgdGhlbm90YWJsZSBleGNlcHRpb250ZW5zIG9mIHRob3VzYW5kc3NldmVyYWwgZGlmZmVyZW50YXJvdW5kIHRo
    ZSB3b3JsZC5yZWFjaGluZyBtaWxpdGFyeWlzb2xhdGVkIGZyb20gdGhlb3Bwb3NpdGlvbiB0byB0aGV0aGUgT2xkIFRlc3
    RhbWVudEFmcmljYW4gQW1lcmljYW5zaW5zZXJ0ZWQgaW50byB0aGVzZXBhcmF0ZSBmcm9tIHRoZW1ldHJvcG9saXRhbiBh
    cmVhbWFrZXMgaXQgcG9zc2libGVhY2tub3dsZWRnZWQgdGhhdGFyZ3VhYmx5IHRoZSBtb3N0dHlwZT0idGV4dC9jc3MiPg
    p0aGUgSW50ZXJuYXRpb25hbEFjY29yZGluZyB0byB0aGUgcGU9InRleHQvY3NzIiAvPgpjb2luY2lkZSB3aXRoIHRoZXR3
    by10aGlyZHMgb2YgdGhlRHVyaW5nIHRoaXMgdGltZSxkdXJpbmcgdGhlIHBlcmlvZGFubm91bmNlZCB0aGF0IGhldGhlIG
    ludGVybmF0aW9uYWxhbmQgbW9yZSByZWNlbnRseWJlbGlldmVkIHRoYXQgdGhlY29uc2Npb3VzbmVzcyBhbmRmb3JtZXJs
    eSBrbm93biBhc3N1cnJvdW5kZWQgYnkgdGhlZmlyc3QgYXBwZWFyZWQgaW5vY2Nhc2lvbmFsbHkgdXNlZA
    "),
  (18, "
    cG9zaXRpb246YWJzb2x1dGU7IiB0YXJnZXQ9Il9ibGFuayIgcG9zaXRpb246cmVsYXRpdmU7dGV4dC1hbGlnbjpjZW50ZX
    I7amF4L2xpYnMvanF1ZXJ5LzEuYmFja2dyb3VuZC1jb2xvcjojdHlwZT0iYXBwbGljYXRpb24vYW5ndWFnZSIgY29udGVu
    dD0iPG1ldGEgaHR0cC1lcXVpdj0iUHJpdmFjeSBQb2xpY3k8L2E-ZSgiJTNDc2NyaXB0IHNyYz0nIiB0YXJnZXQ9Il9ibG
    FuayI-T24gdGhlIG90aGVyIGhhbmQsLmpwZ3x0aHVtYnxyaWdodHwyPC9kaXY-PGRpdiBjbGFzcz0iPGRpdiBzdHlsZT0i
    ZmxvYXQ6bmluZXRlZW50aCBjZW50dXJ5PC9ib2R5Pg0KPC9odG1sPg0KPGltZyBzcmM9Imh0dHA6Ly9zO3RleHQtYWxpZ2
    46Y2VudGVyZm9udC13ZWlnaHQ6IGJvbGQ7IEFjY29yZGluZyB0byB0aGUgZGlmZmVyZW5jZSBiZXR3ZWVuIiBmcmFtZWJv
    cmRlcj0iMCIgIiBzdHlsZT0icG9zaXRpb246bGluayBocmVmPSJodHRwOi8vaHRtbDQvbG9vc2UuZHRkIj4KZHVyaW5nIH
    RoaXMgcGVyaW9kPC90ZD48L3RyPjwvdGFibGU-Y2xvc2VseSByZWxhdGVkIHRvZm9yIHRoZSBmaXJzdCB0aW1lO2ZvbnQt
    d2VpZ2h0OmJvbGQ7aW5wdXQgdHlwZT0idGV4dCIgPHNwYW4gc3R5bGU9ImZvbnQtb25yZWFkeXN0YXRlY2hhbmdlCTxkaX
    YgY2xhc3M9ImNsZWFyZG9jdW1lbnQubG9jYXRpb24uIEZvciBleGFtcGxlLCB0aGUgYSB3aWRlIHZhcmlldHkgb2YgPCFE
    T0NUWVBFIGh0bWw-DQo8Jm5ic3A7Jm5ic3A7Jm5ic3A7Ij48YSBocmVmPSJodHRwOi8vc3R5bGU9ImZsb2F0OmxlZnQ7Y2
    9uY2VybmVkIHdpdGggdGhlPWh0dHAlM0ElMkYlMkZ3d3cuaW4gcG9wdWxhciBjdWx0dXJldHlwZT0idGV4dC9jc3MiIC8-
    aXQgaXMgcG9zc2libGUgdG8gSGFydmFyZCBVbml2ZXJzaXR5dHlsZXNoZWV0IiBocmVmPSIvdGhlIG1haW4gY2hhcmFjdG
    VyT3hmb3JkIFVuaXZlcnNpdHkgIG5hbWU9ImtleXdvcmRzIiBjc3R5bGU9InRleHQtYWxpZ246dGhlIFVuaXRlZCBLaW5n
    ZG9tZmVkZXJhbCBnb3Zlcm5tZW50PGRpdiBzdHlsZT0ibWFyZ2luIGRlcGVuZGluZyBvbiB0aGUgZGVzY3JpcHRpb24gb2
    YgdGhlPGRpdiBjbGFzcz0iaGVhZGVyLm1pbi5qcyI-PC9zY3JpcHQ-ZGVzdHJ1Y3Rpb24gb2YgdGhlc2xpZ2h0bHkgZGlm
    ZmVyZW50aW4gYWNjb3JkYW5jZSB3aXRodGVsZWNvbW11bmljYXRpb25zaW5kaWNhdGVzIHRoYXQgdGhlc2hvcnRseSB0aG
    VyZWFmdGVyZXNwZWNpYWxseSBpbiB0aGUgRXVyb3BlYW4gY291bnRyaWVzSG93ZXZlciwgdGhlcmUgYXJlc3JjPSJodHRw
    Oi8vc3RhdGljc3VnZ2VzdGVkIHRoYXQgdGhlIiBzcmM9Imh0dHA6Ly93d3cuYSBsYXJnZSBudW1iZXIgb2YgVGVsZWNvbW
    11bmljYXRpb25zIiByZWw9Im5vZm9sbG93IiB0SG9seSBSb21hbiBFbXBlcm9yYWxtb3N0IGV4Y2x1c2l2ZWx5IiBib3Jk
    ZXI9IjAiIGFsdD0iU2VjcmV0YXJ5IG9mIFN0YXRlY3VsbWluYXRpbmcgaW4gdGhlQ0lBIFdvcmxkIEZhY3Rib29rdGhlIG
    1vc3QgaW1wb3J0YW50YW5uaXZlcnNhcnkgb2YgdGhlc3R5bGU9ImJhY2tncm91bmQtPGxpPjxlbT48YSBocmVmPSIvdGhl
    IEF0bGFudGljIE9jZWFuc3RyaWN0bHkgc3BlYWtpbmcsc2hvcnRseSBiZWZvcmUgdGhlZGlmZmVyZW50IHR5cGVzIG9mdG
    hlIE90dG9tYW4gRW1waXJlPjxpbWcgc3JjPSJodHRwOi8vQW4gSW50cm9kdWN0aW9uIHRvY29uc2VxdWVuY2Ugb2YgdGhl
    ZGVwYXJ0dXJlIGZyb20gdGhlQ29uZmVkZXJhdGUgU3RhdGVzaW5kaWdlbm91cyBwZW9wbGVzUHJvY2VlZGluZ3Mgb2YgdG
    hlaW5mb3JtYXRpb24gb24gdGhldGhlb3JpZXMgaGF2ZSBiZWVuaW52b2x2ZW1lbnQgaW4gdGhlZGl2aWRlZCBpbnRvIHRo
    cmVlYWRqYWNlbnQgY291bnRyaWVzaXMgcmVzcG9uc2libGUgZm9yZGlzc29sdXRpb24gb2YgdGhlY29sbGFib3JhdGlvbi
    B3aXRod2lkZWx5IHJlZ2FyZGVkIGFzaGlzIGNvbnRlbXBvcmFyaWVzZm91bmRpbmcgbWVtYmVyIG9mRG9taW5pY2FuIFJl
    cHVibGljZ2VuZXJhbGx5IGFjY2VwdGVkdGhlIHBvc3NpYmlsaXR5IG9mYXJlIGFsc28gYXZhaWxhYmxldW5kZXIgY29uc3
    RydWN0aW9ucmVzdG9yYXRpb24gb2YgdGhldGhlIGdlbmVyYWwgcHVibGljaXMgYWxtb3N0IGVudGlyZWx5cGFzc2VzIHRo
    cm91Z2ggdGhlaGFzIGJlZW4gc3VnZ2VzdGVkY29tcHV0ZXIgYW5kIHZpZGVvR2VybWFuaWMgbGFuZ3VhZ2VzIGFjY29yZG
    luZyB0byB0aGUgZGlmZmVyZW50IGZyb20gdGhlc2hvcnRseSBhZnRlcndhcmRzaHJlZj0iaHR0cHM6Ly93d3cucmVjZW50
    IGRldmVsb3BtZW50Qm9hcmQgb2YgRGlyZWN0b3JzPGRpdiBjbGFzcz0ic2VhcmNofCA8YSBocmVmPSJodHRwOi8vSW4gcG
    FydGljdWxhciwgdGhlTXVsdGlwbGUgZm9vdG5vdGVzb3Igb3RoZXIgc3Vic3RhbmNldGhvdXNhbmRzIG9mIHllYXJzdHJh
    bnNsYXRpb24gb2YgdGhlPC9kaXY-DQo8L2Rpdj4NCg0KPGEgaHJlZj0iaW5kZXgucGhwd2FzIGVzdGFibGlzaGVkIGlubW
    luLmpzIj48L3NjcmlwdD4KcGFydGljaXBhdGUgaW4gdGhlYSBzdHJvbmcgaW5mbHVlbmNlc3R5bGU9Im1hcmdpbi10b3A6
    cmVwcmVzZW50ZWQgYnkgdGhlZ3JhZHVhdGVkIGZyb20gdGhlVHJhZGl0aW9uYWxseSwgdGhlRWxlbWVudCgic2NyaXB0Ii
    k7SG93ZXZlciwgc2luY2UgdGhlL2Rpdj4KPC9kaXY-CjxkaXYgbGVmdDsgbWFyZ2luLWxlZnQ6cHJvdGVjdGlvbiBhZ2Fp
    bnN0MDsgdmVydGljYWwtYWxpZ246VW5mb3J0dW5hdGVseSwgdGhldHlwZT0iaW1hZ2UveC1pY29uL2Rpdj4KPGRpdiBjbG
    Fzcz0iIGNsYXNzPSJjbGVhcmZpeCI-PGRpdiBjbGFzcz0iZm9vdGVyCQk8L2Rpdj4KCQk8L2Rpdj4KdGhlIG1vdGlvbiBw
    aWN0dXJl0JHRitC70LPQsNGA0YHQutC40LHRitC70LPQsNGA0YHQutC40KTQtdC00LXRgNCw0YbQuNC40L3QtdGB0LrQvt
    C70YzQutC-0YHQvtC-0LHRidC10L3QuNC10YHQvtC-0LHRidC10L3QuNGP0L_RgNC-0LPRgNCw0LzQvNGL0J7RgtC_0YDQ
    sNCy0LjRgtGM0LHQtdGB0L_Qu9Cw0YLQvdC-0LzQsNGC0LXRgNC40LDQu9GL0L_QvtC30LLQvtC70Y_QtdGC0L_QvtGB0L
    vQtdC00L3QuNC10YDQsNC30LvQuNGH0L3Ri9GF0L_RgNC-0LTRg9C60YbQuNC40L_RgNC-0LPRgNCw0LzQvNCw0L_QvtC7
    0L3QvtGB0YLRjNGO0L3QsNGF0L7QtNC40YLRgdGP0LjQt9Cx0YDQsNC90L3QvtC10L3QsNGB0LXQu9C10L3QuNGP0LjQt9
    C80LXQvdC10L3QuNGP0LrQsNGC0LXQs9C-0YDQuNC40JDQu9C10LrRgdCw0L3QtNGA4KSm4KWN4KS14KS-4KSw4KS-4KSu
    4KWI4KSo4KWB4KSF4KSy4KSq4KWN4KSw4KSm4KS-4KSo4KSt4KS-4KSw4KSk4KWA4KSv4KSF4KSo4KWB4KSm4KWH4KS24K
    S54KS_4KSo4KWN4KSm4KWA4KSH4KSC4KSh4KS_4KSv4KS-4KSm4KS_4KSy4KWN4KSy4KWA4KSF4KSn4KS_4KSV4KS-4KSw
    4KS14KWA4KSh4KS_4KSv4KWL4KSa4KS_4KSf4KWN4KSg4KWH4KS44KSu4KS-4KSa4KS-4KSw4KSc4KSC4KSV4KWN4KS24K
    So4KSm4KWB4KSo4KS_4KSv4KS-4KSq4KWN4KSw4KSv4KWL4KSX4KSF4KSo4KWB4KS44KS-4KSw4KSR4KSo4KSy4KS-4KSH
    4KSo4KSq4KS-4KSw4KWN4KSf4KWA4KS24KSw4KWN4KSk4KWL4KSC4KSy4KWL4KSV4KS44KSt4KS-4KSr4KS84KWN4KSy4K
    WI4KS24KS24KSw4KWN4KSk4KWH4KSC4KSq4KWN4KSw4KSm4KWH4KS24KSq4KWN4KSy4KWH4KSv4KSw4KSV4KWH4KSC4KSm
    4KWN4KSw4KS44KWN4KSl4KS_4KSk4KS_4KSJ4KSk4KWN4KSq4KS-4KSm4KSJ4KSo4KWN4KS54KWH4KSC4KSa4KS_4KSf4K
    WN4KSg4KS-4KSv4KS-4KSk4KWN4KSw4KS-4KSc4KWN4KSv4KS-4KSm4KS-4KSq4KWB4KSw4KS-4KSo4KWH4KSc4KWL4KSh
    4KS84KWH4KSC4KSF4KSo4KWB4KS14KS-4KSm4KS24KWN4KSw4KWH4KSj4KWA4KS24KS_4KSV4KWN4KS34KS-4KS44KSw4K
    SV4KS-4KSw4KWA4KS44KSC4KSX4KWN4KSw4KS54KSq4KSw4KS_4KSj4KS-4KSu4KSs4KWN4KSw4KS-4KSC4KSh4KSs4KSa
    4KWN4KSa4KWL4KSC4KSJ4KSq4KSy4KSs4KWN4KSn4KSu4KSC4KSk4KWN4KSw4KWA4KS44KSC4KSq4KSw4KWN4KSV4KSJ4K
    Su4KWN4KSu4KWA4KSm4KSu4KS-4KSn4KWN4KSv4KSu4KS44KS54KS-4KSv4KSk4KS-4KS24KSs4KWN4KSm4KWL4KSC4KSu
    4KWA4KSh4KS_4KSv4KS-4KSG4KSI4KSq4KWA4KSP4KSy4KSu4KWL4KSs4KS-4KSH4KSy4KS44KSC4KSW4KWN4KSv4KS-4K
    SG4KSq4KSw4KWH4KS24KSo4KSF4KSo4KWB4KSs4KSC4KSn4KSs4KS-4KSc4KS84KS-4KSw4KSo4KS14KWA4KSo4KSk4KSu
    4KSq4KWN4KSw4KSu4KWB4KSW4KSq4KWN4KSw4KS24KWN4KSo4KSq4KSw4KS_4KS14KS-4KSw4KSo4KWB4KSV4KS44KS-4K
    So4KS44KSu4KSw4KWN4KSl4KSo4KSG4KSv4KWL4KSc4KS_4KSk4KS44KWL4KSu4KS14KS-4KSw2KfZhNmF2LTYp9ix2YPY
    p9iq2KfZhNmF2YbYqtiv2YrYp9iq2KfZhNmD2YXYqNmK2YjYqtix2KfZhNmF2LTYp9mH2K_Yp9iq2LnYr9iv2KfZhNiy2Y
    jYp9ix2LnYr9iv2KfZhNix2K_ZiNiv2KfZhNil2LPZhNin2YXZitip2KfZhNmB2YjYqtmI2LTZiNio2KfZhNmF2LPYp9io
    2YLYp9iq2KfZhNmF2LnZhNmI2YXYp9iq2KfZhNmF2LPZhNiz2YTYp9iq2KfZhNis2LHYp9mB2YrZg9iz2KfZhNin2LPZhN
    in2YXZitip2KfZhNin2KrYtdin2YTYp9iq
    "),
  (19, "
    a2V5d29yZHMiIGNvbnRlbnQ9InczLm9yZy8xOTk5L3hodG1sIj48YSB0YXJnZXQ9Il9ibGFuayIgdGV4dC9odG1sOyBjaG
    Fyc2V0PSIgdGFyZ2V0PSJfYmxhbmsiPjx0YWJsZSBjZWxscGFkZGluZz0iYXV0b2NvbXBsZXRlPSJvZmYiIHRleHQtYWxp
    Z246IGNlbnRlcjt0byBsYXN0IHZlcnNpb24gYnkgYmFja2dyb3VuZC1jb2xvcjogIyIgaHJlZj0iaHR0cDovL3d3dy4vZG
    l2PjwvZGl2PjxkaXYgaWQ9PGEgaHJlZj0iIyIgY2xhc3M9IiI-PGltZyBzcmM9Imh0dHA6Ly9jcmlwdCIgc3JjPSJodHRw
    Oi8vCjxzY3JpcHQgbGFuZ3VhZ2U9Ii8vRU4iICJodHRwOi8vd3d3LndlbmNvZGVVUklDb21wb25lbnQoIiBocmVmPSJqYX
    Zhc2NyaXB0OjxkaXYgY2xhc3M9ImNvbnRlbnRkb2N1bWVudC53cml0ZSgnPHNjcG9zaXRpb246IGFic29sdXRlO3Njcmlw
    dCBzcmM9Imh0dHA6Ly8gc3R5bGU9Im1hcmdpbi10b3A6Lm1pbi5qcyI-PC9zY3JpcHQ-CjwvZGl2Pgo8ZGl2IGNsYXNzPS
    J3My5vcmcvMTk5OS94aHRtbCIgCg0KPC9ib2R5Pg0KPC9odG1sPmRpc3RpbmN0aW9uIGJldHdlZW4vIiB0YXJnZXQ9Il9i
    bGFuayI-PGxpbmsgaHJlZj0iaHR0cDovL2VuY29kaW5nPSJ1dGYtOCI_Pgp3LmFkZEV2ZW50TGlzdGVuZXI_YWN0aW9uPS
    JodHRwOi8vd3d3Lmljb24iIGhyZWY9Imh0dHA6Ly8gc3R5bGU9ImJhY2tncm91bmQ6dHlwZT0idGV4dC9jc3MiIC8-Cm1l
    dGEgcHJvcGVydHk9Im9nOnQ8aW5wdXQgdHlwZT0idGV4dCIgIHN0eWxlPSJ0ZXh0LWFsaWduOnRoZSBkZXZlbG9wbWVudC
    BvZiB0eWxlc2hlZXQiIHR5cGU9InRlaHRtbDsgY2hhcnNldD11dGYtOGlzIGNvbnNpZGVyZWQgdG8gYmV0YWJsZSB3aWR0
    aD0iMTAwJSIgSW4gYWRkaXRpb24gdG8gdGhlIGNvbnRyaWJ1dGVkIHRvIHRoZSBkaWZmZXJlbmNlcyBiZXR3ZWVuZGV2ZW
    xvcG1lbnQgb2YgdGhlIEl0IGlzIGltcG9ydGFudCB0byA8L3NjcmlwdD4KCjxzY3JpcHQgIHN0eWxlPSJmb250LXNpemU6
    MT48L3NwYW4-PHNwYW4gaWQ9Z2JMaWJyYXJ5IG9mIENvbmdyZXNzPGltZyBzcmM9Imh0dHA6Ly9pbUVuZ2xpc2ggdHJhbn
    NsYXRpb25BY2FkZW15IG9mIFNjaWVuY2VzZGl2IHN0eWxlPSJkaXNwbGF5OmNvbnN0cnVjdGlvbiBvZiB0aGUuZ2V0RWxl
    bWVudEJ5SWQoaWQpaW4gY29uanVuY3Rpb24gd2l0aEVsZW1lbnQoJ3NjcmlwdCcpOyA8bWV0YSBwcm9wZXJ0eT0ib2c60J
    HRitC70LPQsNGA0YHQutC4CiB0eXBlPSJ0ZXh0IiBuYW1lPSI-UHJpdmFjeSBQb2xpY3k8L2E-YWRtaW5pc3RlcmVkIGJ5
    IHRoZWVuYWJsZVNpbmdsZVJlcXVlc3RzdHlsZT0mcXVvdDttYXJnaW46PC9kaXY-PC9kaXY-PC9kaXY-PD48aW1nIHNyYz
    0iaHR0cDovL2kgc3R5bGU9JnF1b3Q7ZmxvYXQ6cmVmZXJyZWQgdG8gYXMgdGhlIHRvdGFsIHBvcHVsYXRpb24gb2ZpbiBX
    YXNoaW5ndG9uLCBELkMuIHN0eWxlPSJiYWNrZ3JvdW5kLWFtb25nIG90aGVyIHRoaW5ncyxvcmdhbml6YXRpb24gb2YgdG
    hlcGFydGljaXBhdGVkIGluIHRoZXRoZSBpbnRyb2R1Y3Rpb24gb2ZpZGVudGlmaWVkIHdpdGggdGhlZmljdGlvbmFsIGNo
    YXJhY3RlciBPeGZvcmQgVW5pdmVyc2l0eSBtaXN1bmRlcnN0YW5kaW5nIG9mVGhlcmUgYXJlLCBob3dldmVyLHN0eWxlc2
    hlZXQiIGhyZWY9Ii9Db2x1bWJpYSBVbml2ZXJzaXR5ZXhwYW5kZWQgdG8gaW5jbHVkZXVzdWFsbHkgcmVmZXJyZWQgdG9p
    bmRpY2F0aW5nIHRoYXQgdGhlaGF2ZSBzdWdnZXN0ZWQgdGhhdGFmZmlsaWF0ZWQgd2l0aCB0aGVjb3JyZWxhdGlvbiBiZX
    R3ZWVubnVtYmVyIG9mIGRpZmZlcmVudD48L3RkPjwvdHI-PC90YWJsZT5SZXB1YmxpYyBvZiBJcmVsYW5kCjwvc2NyaXB0
    Pgo8c2NyaXB0IHVuZGVyIHRoZSBpbmZsdWVuY2Vjb250cmlidXRpb24gdG8gdGhlT2ZmaWNpYWwgd2Vic2l0ZSBvZmhlYW
    RxdWFydGVycyBvZiB0aGVjZW50ZXJlZCBhcm91bmQgdGhlaW1wbGljYXRpb25zIG9mIHRoZWhhdmUgYmVlbiBkZXZlbG9w
    ZWRGZWRlcmFsIFJlcHVibGljIG9mYmVjYW1lIGluY3JlYXNpbmdseWNvbnRpbnVhdGlvbiBvZiB0aGVOb3RlLCBob3dldm
    VyLCB0aGF0c2ltaWxhciB0byB0aGF0IG9mIGNhcGFiaWxpdGllcyBvZiB0aGVhY2NvcmRhbmNlIHdpdGggdGhlcGFydGlj
    aXBhbnRzIGluIHRoZWZ1cnRoZXIgZGV2ZWxvcG1lbnR1bmRlciB0aGUgZGlyZWN0aW9uaXMgb2Z0ZW4gY29uc2lkZXJlZG
    hpcyB5b3VuZ2VyIGJyb3RoZXI8L3RkPjwvdHI-PC90YWJsZT48YSBodHRwLWVxdWl2PSJYLVVBLXBoeXNpY2FsIHByb3Bl
    cnRpZXNvZiBCcml0aXNoIENvbHVtYmlhaGFzIGJlZW4gY3JpdGljaXplZCh3aXRoIHRoZSBleGNlcHRpb25xdWVzdGlvbn
    MgYWJvdXQgdGhlcGFzc2luZyB0aHJvdWdoIHRoZTAiIGNlbGxwYWRkaW5nPSIwIiB0aG91c2FuZHMgb2YgcGVvcGxlcmVk
    aXJlY3RzIGhlcmUuIEZvcmhhdmUgY2hpbGRyZW4gdW5kZXI
    "),
  (20, "
    JTNFJTNDL3NjcmlwdCUzRSIpKTs8YSBocmVmPSJodHRwOi8vd3d3LjxsaT48YSBocmVmPSJodHRwOi8vc2l0ZV9uYW1lIi
    Bjb250ZW50PSJ0ZXh0LWRlY29yYXRpb246bm9uZXN0eWxlPSJkaXNwbGF5OiBub25lPG1ldGEgaHR0cC1lcXVpdj0iWC1u
    ZXcgRGF0ZSgpLmdldFRpbWUoKSB0eXBlPSJpbWFnZS94LWljb24iPC9zcGFuPjxzcGFuIGNsYXNzPSJsYW5ndWFnZT0iam
    F2YXNjcmlwdHdpbmRvdy5sb2NhdGlvbi5ocmVmPGEgaHJlZj0iamF2YXNjcmlwdDotLT4NCjxzY3JpcHQgdHlwZT0idDxh
    IGhyZWY9J2h0dHA6Ly93d3cuaG9ydGN1dCBpY29uIiBocmVmPSI8L2Rpdj4NCjxkaXYgY2xhc3M9IjxzY3JpcHQgc3JjPS
    JodHRwOi8vIiByZWw9InN0eWxlc2hlZXQiIHQ8L2Rpdj4KPHNjcmlwdCB0eXBlPS9hPiA8YSBocmVmPSJodHRwOi8vIGFs
    bG93VHJhbnNwYXJlbmN5PSJYLVVBLUNvbXBhdGlibGUiIGNvbnJlbGF0aW9uc2hpcCBiZXR3ZWVuCjwvc2NyaXB0Pg0KPH
    NjcmlwdCA8L2E-PC9saT48L3VsPjwvZGl2PmFzc29jaWF0ZWQgd2l0aCB0aGUgcHJvZ3JhbW1pbmcgbGFuZ3VhZ2U8L2E-
    PGEgaHJlZj0iaHR0cDovLzwvYT48L2xpPjxsaSBjbGFzcz0iZm9ybSBhY3Rpb249Imh0dHA6Ly88ZGl2IHN0eWxlPSJkaX
    NwbGF5OnR5cGU9InRleHQiIG5hbWU9InEiPHRhYmxlIHdpZHRoPSIxMDAlIiBiYWNrZ3JvdW5kLXBvc2l0aW9uOiIgYm9y
    ZGVyPSIwIiB3aWR0aD0icmVsPSJzaG9ydGN1dCBpY29uIiBoNj48dWw-PGxpPjxhIGhyZWY9IiAgPG1ldGEgaHR0cC1lcX
    Vpdj0iY3NzIiBtZWRpYT0ic2NyZWVuIiByZXNwb25zaWJsZSBmb3IgdGhlICIgdHlwZT0iYXBwbGljYXRpb24vIiBzdHls
    ZT0iYmFja2dyb3VuZC1odG1sOyBjaGFyc2V0PXV0Zi04IiBhbGxvd3RyYW5zcGFyZW5jeT0ic3R5bGVzaGVldCIgdHlwZT
    0idGUNCjxtZXRhIGh0dHAtZXF1aXY9Ij48L3NwYW4-PHNwYW4gY2xhc3M9IjAiIGNlbGxzcGFjaW5nPSIwIj47Cjwvc2Ny
    aXB0Pgo8c2NyaXB0IHNvbWV0aW1lcyBjYWxsZWQgdGhlZG9lcyBub3QgbmVjZXNzYXJpbHlGb3IgbW9yZSBpbmZvcm1hdG
    lvbmF0IHRoZSBiZWdpbm5pbmcgb2YgPCFET0NUWVBFIGh0bWw-PGh0bWxwYXJ0aWN1bGFybHkgaW4gdGhlIHR5cGU9Imhp
    ZGRlbiIgbmFtZT0iamF2YXNjcmlwdDp2b2lkKDApOyJlZmZlY3RpdmVuZXNzIG9mIHRoZSBhdXRvY29tcGxldGU9Im9mZi
    IgZ2VuZXJhbGx5IGNvbnNpZGVyZWQ-PGlucHV0IHR5cGU9InRleHQiICI-PC9zY3JpcHQ-DQo8c2NyaXB0dGhyb3VnaG91
    dCB0aGUgd29ybGRjb21tb24gbWlzY29uY2VwdGlvbmFzc29jaWF0aW9uIHdpdGggdGhlPC9kaXY-CjwvZGl2Pgo8ZGl2IG
    NkdXJpbmcgaGlzIGxpZmV0aW1lLGNvcnJlc3BvbmRpbmcgdG8gdGhldHlwZT0iaW1hZ2UveC1pY29uIiBhbiBpbmNyZWFz
    aW5nIG51bWJlcmRpcGxvbWF0aWMgcmVsYXRpb25zYXJlIG9mdGVuIGNvbnNpZGVyZWRtZXRhIGNoYXJzZXQ9InV0Zi04Ii
    A8aW5wdXQgdHlwZT0idGV4dCIgZXhhbXBsZXMgaW5jbHVkZSB0aGUiPjxpbWcgc3JjPSJodHRwOi8vaXBhcnRpY2lwYXRp
    b24gaW4gdGhldGhlIGVzdGFibGlzaG1lbnQgb2YKPC9kaXY-CjxkaXYgY2xhc3M9IiZhbXA7bmJzcDsmYW1wO25ic3A7dG
    8gZGV0ZXJtaW5lIHdoZXRoZXJxdWl0ZSBkaWZmZXJlbnQgZnJvbW1hcmtlZCB0aGUgYmVnaW5uaW5nZGlzdGFuY2UgYmV0
    d2VlbiB0aGVjb250cmlidXRpb25zIHRvIHRoZWNvbmZsaWN0IGJldHdlZW4gdGhld2lkZWx5IGNvbnNpZGVyZWQgdG93YX
    Mgb25lIG9mIHRoZSBmaXJzdHdpdGggdmFyeWluZyBkZWdyZWVzaGF2ZSBzcGVjdWxhdGVkIHRoYXQoZG9jdW1lbnQuZ2V0
    RWxlbWVudHBhcnRpY2lwYXRpbmcgaW4gdGhlb3JpZ2luYWxseSBkZXZlbG9wZWRldGEgY2hhcnNldD0idXRmLTgiPiB0eX
    BlPSJ0ZXh0L2NzcyIgLz4KaW50ZXJjaGFuZ2VhYmx5IHdpdGhtb3JlIGNsb3NlbHkgcmVsYXRlZHNvY2lhbCBhbmQgcG9s
    aXRpY2FsdGhhdCB3b3VsZCBvdGhlcndpc2VwZXJwZW5kaWN1bGFyIHRvIHRoZXN0eWxlIHR5cGU9InRleHQvY3NzdHlwZT
    0ic3VibWl0IiBuYW1lPSJmYW1pbGllcyByZXNpZGluZyBpbmRldmVsb3BpbmcgY291bnRyaWVzY29tcHV0ZXIgcHJvZ3Jh
    bW1pbmdlY29ub21pYyBkZXZlbG9wbWVudGRldGVybWluYXRpb24gb2YgdGhlZm9yIG1vcmUgaW5mb3JtYXRpb25vbiBzZX
    ZlcmFsIG9jY2FzaW9uc3BvcnR1Z3XDqnMgKEV1cm9wZXUp0KPQutGA0LDRl9C90YHRjNC60LDRg9C60YDQsNGX0L3RgdGM
    0LrQsNCg0L7RgdGB0LjQudGB0LrQvtC50LzQsNGC0LXRgNC40LDQu9C-0LLQuNC90YTQvtGA0LzQsNGG0LjQuNGD0L_RgN
    Cw0LLQu9C10L3QuNGP0L3QtdC-0LHRhdC-0LTQuNC80L7QuNC90YTQvtGA0LzQsNGG0LjRj9CY0L3RhNC-0YDQvNCw0YbQ
    uNGP0KDQtdGB0L_Rg9Cx0LvQuNC60LjQutC-0LvQuNGH0LXRgdGC0LLQvtC40L3RhNC-0YDQvNCw0YbQuNGO0YLQtdGA0Y
    DQuNGC0L7RgNC40LjQtNC-0YHRgtCw0YLQvtGH0L3Qvtin2YTZhdiq2YjYp9is2K_ZiNmG2KfZhNin2LTYqtix2KfZg9in
    2KrYp9mE2KfZgtiq2LHYp9it2KfYqg
    "),
  (21, "
    aHRtbDsgY2hhcnNldD1VVEYtOCIgc2V0VGltZW91dChmdW5jdGlvbigpZGlzcGxheTppbmxpbmUtYmxvY2s7PGlucHV0IH
    R5cGU9InN1Ym1pdCIgdHlwZSA9ICd0ZXh0L2phdmFzY3JpPGltZyBzcmM9Imh0dHA6Ly93d3cuIiAiaHR0cDovL3d3dy53
    My5vcmcvc2hvcnRjdXQgaWNvbiIgaHJlZj0iIiBhdXRvY29tcGxldGU9Im9mZiIgPC9hPjwvZGl2PjxkaXYgY2xhc3M9PC
    9hPjwvbGk-CjxsaSBjbGFzcz0iY3NzIiB0eXBlPSJ0ZXh0L2NzcyIgPGZvcm0gYWN0aW9uPSJodHRwOi8veHQvY3NzIiBo
    cmVmPSJodHRwOi8vbGluayByZWw9ImFsdGVybmF0ZSIgDQo8c2NyaXB0IHR5cGU9InRleHQvIG9uY2xpY2s9ImphdmFzY3
    JpcHQ6KG5ldyBEYXRlKS5nZXRUaW1lKCl9aGVpZ2h0PSIxIiB3aWR0aD0iMSIgUGVvcGxlJ3MgUmVwdWJsaWMgb2YgIDxh
    IGhyZWY9Imh0dHA6Ly93d3cudGV4dC1kZWNvcmF0aW9uOnVuZGVydGhlIGJlZ2lubmluZyBvZiB0aGUgPC9kaXY-CjwvZG
    l2Pgo8L2Rpdj4KZXN0YWJsaXNobWVudCBvZiB0aGUgPC9kaXY-PC9kaXY-PC9kaXY-PC9kI3ZpZXdwb3J0e21pbi1oZWln
    aHQ6CjxzY3JpcHQgc3JjPSJodHRwOi8vb3B0aW9uPjxvcHRpb24gdmFsdWU9b2Z0ZW4gcmVmZXJyZWQgdG8gYXMgL29wdG
    lvbj4KPG9wdGlvbiB2YWx1PCFET0NUWVBFIGh0bWw-CjwhLS1bSW50ZXJuYXRpb25hbCBBaXJwb3J0Pgo8YSBocmVmPSJo
    dHRwOi8vd3d3PC9hPjxhIGhyZWY9Imh0dHA6Ly934Lig4Liy4Lip4Liy4LmE4LiX4Lii4YOl4YOQ4YOg4YOX4YOj4YOa4Y
    OY5q2j6auU5Lit5paHICjnuYHpq5Qp4KSo4KS_4KSw4KWN4KSm4KWH4KS24KSh4KS-4KSJ4KSo4KSy4KWL4KSh4KSV4KWN
    4KS34KWH4KSk4KWN4KSw4KSc4KS-4KSo4KSV4KS-4KSw4KWA4KS44KSC4KSs4KSC4KSn4KS_4KSk4KS44KWN4KSl4KS-4K
    Sq4KSo4KS-4KS44KWN4KS14KWA4KSV4KS-4KSw4KS44KSC4KS44KWN4KSV4KSw4KSj4KS44KS-4KSu4KSX4KWN4KSw4KWA
    4KSa4KS_4KSf4KWN4KSg4KWL4KSC4KS14KS_4KSc4KWN4KSe4KS-4KSo4KSF4KSu4KWH4KSw4KS_4KSV4KS-4KS14KS_4K
    St4KS_4KSo4KWN4KSo4KSX4KS-4KSh4KS_4KSv4KS-4KSB4KSV4KWN4KSv4KWL4KSC4KSV4KS_4KS44KWB4KSw4KSV4KWN
    4KS34KS-4KSq4KS54KWB4KSB4KSa4KSk4KWA4KSq4KWN4KSw4KSs4KSC4KSn4KSo4KSf4KS_4KSq4KWN4KSq4KSj4KWA4K
    SV4KWN4KSw4KS_4KSV4KWH4KSf4KSq4KWN4KSw4KS-4KSw4KSC4KSt4KSq4KWN4KSw4KS-4KSq4KWN4KSk4KSu4KS-4KSy
    4KS_4KSV4KWL4KSC4KSw4KSr4KS84KWN4KSk4KS-4KSw4KSo4KS_4KSw4KWN4KSu4KS-4KSj4KSy4KS_4KSu4KS_4KSf4K
    WH4KSh
    "),
  (22, "
    ZGVzY3JpcHRpb24iIGNvbnRlbnQ9ImRvY3VtZW50LmxvY2F0aW9uLnByb3QuZ2V0RWxlbWVudHNCeVRhZ05hbWUoPCFET0
    NUWVBFIGh0bWw-CjxodG1sIDxtZXRhIGNoYXJzZXQ9InV0Zi04Ij46dXJsIiBjb250ZW50PSJodHRwOi8vLmNzcyIgcmVs
    PSJzdHlsZXNoZWV0InN0eWxlIHR5cGU9InRleHQvY3NzIj50eXBlPSJ0ZXh0L2NzcyIgaHJlZj0idzMub3JnLzE5OTkveG
    h0bWwiIHhtbHR5cGU9InRleHQvamF2YXNjcmlwdCIgbWV0aG9kPSJnZXQiIGFjdGlvbj0ibGluayByZWw9InN0eWxlc2hl
    ZXQiICA9IGRvY3VtZW50LmdldEVsZW1lbnR0eXBlPSJpbWFnZS94LWljb24iIC8-Y2VsbHBhZGRpbmc9IjAiIGNlbGxzcC
    5jc3MiIHR5cGU9InRleHQvY3NzIiA8L2E-PC9saT48bGk-PGEgaHJlZj0iIiB3aWR0aD0iMSIgaGVpZ2h0PSIxIiI-PGEg
    aHJlZj0iaHR0cDovL3d3dy5zdHlsZT0iZGlzcGxheTpub25lOyI-YWx0ZXJuYXRlIiB0eXBlPSJhcHBsaS0vL1czQy8vRF
    REIFhIVE1MIDEuMCBlbGxzcGFjaW5nPSIwIiBjZWxscGFkIHR5cGU9ImhpZGRlbiIgdmFsdWU9Ii9hPiZuYnNwOzxzcGFu
    IHJvbGU9InMKPGlucHV0IHR5cGU9ImhpZGRlbiIgbGFuZ3VhZ2U9IkphdmFTY3JpcHQiICBkb2N1bWVudC5nZXRFbGVtZW
    50c0JnPSIwIiBjZWxsc3BhY2luZz0iMCIgeXBlPSJ0ZXh0L2NzcyIgbWVkaWE9InR5cGU9J3RleHQvamF2YXNjcmlwdCd3
    aXRoIHRoZSBleGNlcHRpb24gb2YgeXBlPSJ0ZXh0L2NzcyIgcmVsPSJzdCBoZWlnaHQ9IjEiIHdpZHRoPSIxIiA9Jytlbm
    NvZGVVUklDb21wb25lbnQoPGxpbmsgcmVsPSJhbHRlcm5hdGUiIApib2R5LCB0ciwgaW5wdXQsIHRleHRtZXRhIG5hbWU9
    InJvYm90cyIgY29ubWV0aG9kPSJwb3N0IiBhY3Rpb249Ij4KPGEgaHJlZj0iaHR0cDovL3d3dy5jc3MiIHJlbD0ic3R5bG
    VzaGVldCIgPC9kaXY-PC9kaXY-PGRpdiBjbGFzc2xhbmd1YWdlPSJqYXZhc2NyaXB0Ij5hcmlhLWhpZGRlbj0idHJ1ZSI-
    wrc8cmlwdCIgdHlwZT0idGV4dC9qYXZhc2w9MDt9KSgpOwooZnVuY3Rpb24oKXtiYWNrZ3JvdW5kLWltYWdlOiB1cmwoL2
    E-PC9saT48bGk-PGEgaHJlZj0iaAkJPGxpPjxhIGhyZWY9Imh0dHA6Ly9hdG9yIiBhcmlhLWhpZGRlbj0idHJ1PiA8YSBo
    cmVmPSJodHRwOi8vd3d3Lmxhbmd1YWdlPSJqYXZhc2NyaXB0IiAvb3B0aW9uPgo8b3B0aW9uIHZhbHVlL2Rpdj48L2Rpdj
    48ZGl2IGNsYXNzPXJhdG9yIiBhcmlhLWhpZGRlbj0idHJlPShuZXcgRGF0ZSkuZ2V0VGltZSgpcG9ydHVndcOqcyAoZG8g
    QnJhc2lsKdC-0YDQs9Cw0L3QuNC30LDRhtC40LjQstC-0LfQvNC-0LbQvdC-0YHRgtGM0L7QsdGA0LDQt9C-0LLQsNC90L
    jRj9GA0LXQs9C40YHRgtGA0LDRhtC40LjQstC-0LfQvNC-0LbQvdC-0YHRgtC40L7QsdGP0LfQsNGC0LXQu9GM0L3QsA
    "),
  (23, "
    PCFET0NUWVBFIGh0bWwgUFVCTElDICJudC1UeXBlIiBjb250ZW50PSJ0ZXh0LzxtZXRhIGh0dHAtZXF1aXY9IkNvbnRlcm
    Fuc2l0aW9uYWwvL0VOIiAiaHR0cDo8aHRtbCB4bWxucz0iaHR0cDovL3d3dy0vL1czQy8vRFREIFhIVE1MIDEuMCBURFRE
    L3hodG1sMS10cmFuc2l0aW9uYWwvL3d3dy53My5vcmcvVFIveGh0bWwxL3BlID0gJ3RleHQvamF2YXNjcmlwdCc7PG1ldG
    EgbmFtZT0iZGVzY3JpcHRpb25wYXJlbnROb2RlLmluc2VydEJlZm9yZTxpbnB1dCB0eXBlPSJoaWRkZW4iIG5hanMiIHR5
    cGU9InRleHQvamF2YXNjcmkoZG9jdW1lbnQpLnJlYWR5KGZ1bmN0aXNjcmlwdCB0eXBlPSJ0ZXh0L2phdmFzaW1hZ2UiIG
    NvbnRlbnQ9Imh0dHA6Ly9VQS1Db21wYXRpYmxlIiBjb250ZW50PXRtbDsgY2hhcnNldD11dGYtOCIgLz4KbGluayByZWw9
    InNob3J0Y3V0IGljb248bGluayByZWw9InN0eWxlc2hlZXQiIDwvc2NyaXB0Pgo8c2NyaXB0IHR5cGU9PSBkb2N1bWVudC
    5jcmVhdGVFbGVtZW48YSB0YXJnZXQ9Il9ibGFuayIgaHJlZj0gZG9jdW1lbnQuZ2V0RWxlbWVudHNCaW5wdXQgdHlwZT0i
    dGV4dCIgbmFtZT1hLnR5cGUgPSAndGV4dC9qYXZhc2NyaW5wdXQgdHlwZT0iaGlkZGVuIiBuYW1laHRtbDsgY2hhcnNldD
    11dGYtOCIgLz5kdGQiPgo8aHRtbCB4bWxucz0iaHR0cC0vL1czQy8vRFREIEhUTUwgNC4wMSBUZW50c0J5VGFnTmFtZSgn
    c2NyaXB0JylpbnB1dCB0eXBlPSJoaWRkZW4iIG5hbQ
    "),
  (24, "
    PHNjcmlwdCB0eXBlPSJ0ZXh0L2phdmFzIiBzdHlsZT0iZGlzcGxheTpub25lOyI-ZG9jdW1lbnQuZ2V0RWxlbWVudEJ5SW
    QoPWRvY3VtZW50LmNyZWF0ZUVsZW1lbnQoJyB0eXBlPSd0ZXh0L2phdmFzY3JpcHQnaW5wdXQgdHlwZT0idGV4dCIgbmFt
    ZT0iZC5nZXRFbGVtZW50c0J5VGFnTmFtZShzbmljYWwiIGhyZWY9Imh0dHA6Ly93d3cuQy8vRFREIEhUTUwgNC4wMSBUcm
    Fuc2l0PHN0eWxlIHR5cGU9InRleHQvY3NzIj4KCjxzdHlsZSB0eXBlPSJ0ZXh0L2NzcyI-aW9uYWwuZHRkIj4KPGh0bWwg
    eG1sbnM9aHR0cC1lcXVpdj0iQ29udGVudC1UeXBlZGluZz0iMCIgY2VsbHNwYWNpbmc9IjAiaHRtbDsgY2hhcnNldD11dG
    YtOCIgLz4KIHN0eWxlPSJkaXNwbGF5Om5vbmU7Ij48PGxpPjxhIGhyZWY9Imh0dHA6Ly93d3cuIHR5cGU9J3RleHQvamF2
    YXNjcmlwdCc-0LTQtdGP0YLQtdC70YzQvdC-0YHRgtC40YHQvtC-0YLQstC10YLRgdGC0LLQuNC40L_RgNC-0LjQt9Cy0L
    7QtNGB0YLQstCw0LHQtdC30L7Qv9Cw0YHQvdC-0YHRgtC44KSq4KWB4KS44KWN4KSk4KS_4KSV4KS-4KSV4KS-4KSC4KSX
    4KWN4KSw4KWH4KS44KSJ4KSo4KWN4KS54KWL4KSC4KSo4KWH4KS14KS_4KSn4KS-4KSo4KS44KSt4KS-4KSr4KS_4KSV4K
    WN4KS44KS_4KSC4KSX4KS44KWB4KSw4KSV4KWN4KS34KS_4KSk4KSV4KWJ4KSq4KWA4KSw4KS-4KSH4KSf4KS14KS_4KSc
    4KWN4KSe4KS-4KSq4KSo4KSV4KS-4KSw4KWN4KSw4KS14KS-4KSI4KS44KSV4KWN4KSw4KS_4KSv4KSk4KS-
    ")]

/-- The words by length, all words of a length one after another. -/
def wordTable : List (Nat × Array UInt8) :=
  spelledWords.map fun (length, s) => (length, (Digest.ofLetters s.toList).toArray)

end Rulebook.Packing.Brotli
