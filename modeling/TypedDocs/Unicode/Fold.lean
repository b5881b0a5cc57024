import TypedDocs.Unicode.CharSet

/-!
# Letters that differ in case only

The simple case foldings of Unicode 16.0 part the characters into classes of those that differ
in case only.  Most classes are pairs, and most pairs come in runs: so many pairs, their first
members a step apart, and all their second members at one distance from the first.
-/

namespace TypedDocs.Unicode

/-! ## Tables -/

/-- Runs of pairs: the first member, the number of pairs, the step, the distance. -/
private def pairsTable : String :=
  "41 a 1 20 4c 7 1 20 54 7 1 20 c0 5 1 20 c6 11 1 20 d8 7 1 20 df 1 1 1dbf ff 1 1 79 100 18 2 " ++
  "1 132 3 2 1 139 8 2 1 14a 17 2 1 179 3 2 1 180 1 1 c3 181 1 1 d2 182 2 2 1 186 1 1 ce 187 1 " ++
  "1 1 189 2 1 cd 18b 1 1 1 18e 1 1 4f 18f 1 1 ca 190 1 1 cb 191 1 1 1 193 1 1 cd 194 1 1 cf " ++
  "195 1 1 61 196 1 1 d3 197 1 1 d1 198 1 1 1 19a 1 1 a3 19b 1 1 a641 19c 1 1 d3 19d 1 1 d5 " ++
  "19e 1 1 82 19f 1 1 d6 1a0 3 2 1 1a6 1 1 da 1a7 1 1 1 1a9 1 1 da 1ac 1 1 1 1ae 1 1 da 1af 1 " ++
  "1 1 1b1 2 1 d9 1b3 2 2 1 1b7 1 1 db 1b8 1 1 1 1bc 1 1 1 1bf 1 1 38 1cd 8 2 1 1de 9 2 1 1f4 " ++
  "1 1 1 1f8 14 2 1 222 9 2 1 23a 1 1 2a2b 23b 1 1 1 23e 1 1 2a28 23f 2 1 2a3f 241 1 1 1 244 1 " ++
  "1 45 245 1 1 47 246 5 2 1 250 1 1 2a1f 251 1 1 2a1c 252 1 1 2a1e 25c 1 1 a54f 261 1 1 a54b " ++
  "264 1 1 a567 265 1 1 a528 266 1 1 a544 26a 1 1 a544 26b 1 1 29f7 26c 1 1 a541 271 1 1 29fd " ++
  "27d 1 1 29e7 282 1 1 a543 287 1 1 a52a 29d 1 1 a515 29e 1 1 a512 370 2 2 1 376 1 1 1 37b 3 " ++
  "1 82 37f 1 1 74 386 1 1 26 388 3 1 25 38c 1 1 40 38e 2 1 3f 390 1 1 1c43 391 2 2 20 394 2 2 " ++
  "20 397 1 1 20 39b 2 2 20 39e 2 1 20 3a4 2 1 20 3a7 2 1 20 3aa 2 1 20 3b0 1 1 1c33 3cf 1 1 8 " ++
  "3d8 c 2 1 3f2 1 1 7 3f7 1 1 1 3fa 1 1 1 400 10 1 50 410 2 1 20 413 2 2 20 416 8 1 20 41f 2 " ++
  "1 20 423 7 1 20 42b 5 1 20 460 1 1 1 464 f 2 1 48a 1b 2 1 4c0 1 1 f 4c1 7 2 1 4d0 30 2 1 " ++
  "531 26 1 30 10a0 26 1 1c60 10c7 1 1 1c60 10cd 1 1 1c60 10d0 2b 1 bc0 10fd 3 1 bc0 13a0 50 1 " ++
  "97d0 13f0 6 1 8 1c89 1 1 1 1d79 1 1 8a04 1d7d 1 1 ee6 1d8e 1 1 8a38 1e00 30 2 1 1e62 1a 2 1 " ++
  "1ea0 30 2 1 1f00 8 1 8 1f10 6 1 8 1f20 8 1 8 1f30 8 1 8 1f40 6 1 8 1f51 4 2 8 1f60 8 1 8 " ++
  "1f70 2 1 4a 1f72 4 1 56 1f76 2 1 64 1f78 2 1 80 1f7a 2 1 70 1f7c 2 1 7e 1f80 8 1 8 1f90 8 1 " ++
  "8 1fa0 8 1 8 1fb0 2 1 8 1fb3 1 1 9 1fc3 1 1 9 1fd0 2 1 8 1fe0 2 1 8 1fe5 1 1 7 1ff3 1 1 9 " ++
  "2132 1 1 1c 2160 10 1 10 2183 1 1 1 24b6 1a 1 1a 2c00 30 1 30 2c60 1 1 1 2c67 3 2 1 2c72 1 " ++
  "1 1 2c75 1 1 1 2c80 32 2 1 2ceb 2 2 1 2cf2 1 1 1 a640 5 2 1 a64c 11 2 1 a680 e 2 1 a722 7 2 " ++
  "1 a732 1f 2 1 a779 2 2 1 a77e 5 2 1 a78b 1 1 1 a790 2 2 1 a794 1 1 30 a796 a 2 1 a7b3 1 1 " ++
  "3a0 a7b4 8 2 1 a7c7 2 2 1 a7cc 1 1 1 a7d0 1 1 1 a7d6 3 2 1 a7f5 1 1 1 fb05 1 1 1 ff21 1a 1 " ++
  "20 10400 28 1 28 104b0 24 1 28 10570 b 1 27 1057c f 1 27 1058c 7 1 27 10594 2 1 27 10c80 33 " ++
  "1 40 10d50 16 1 20 118a0 20 1 20 16e40 20 1 20 1e900 22 1 22"

/-- The classes with more than two members, parted by zeros. -/
private def classesTable : String :=
  "4b 6b 212a 0 53 73 17f 0 b5 39c 3bc 0 c5 e5 212b 0 1c4 1c5 1c6 0 1c7 1c8 1c9 0 1ca 1cb 1cc " ++
  "0 1f1 1f2 1f3 0 345 399 3b9 1fbe 0 392 3b2 3d0 0 395 3b5 3f5 0 398 3b8 3d1 3f4 0 39a 3ba " ++
  "3f0 0 3a0 3c0 3d6 0 3a1 3c1 3f1 0 3a3 3c2 3c3 0 3a6 3c6 3d5 0 3a9 3c9 2126 0 412 432 1c80 0 " ++
  "414 434 1c81 0 41e 43e 1c82 0 421 441 1c83 0 422 442 1c84 1c85 0 42a 44a 1c86 0 462 463 " ++
  "1c87 0 1c88 a64a a64b 0 1e60 1e61 1e9b"

/-! ## Algorithm -/

/-- The pairs of the runs that a list of numbers spells. -/
def expandRuns : List Nat → List (List Nat)
  | first :: count :: step :: distance :: rest =>
    (List.range count).map (fun i => [first + i * step, first + i * step + distance])
      ++ expandRuns rest
  | _ => []

/-- The parts of a list of numbers between its zeros. -/
def splitZeros : List Nat → List (List Nat)
  | [] => [[]]
  | 0 :: ns => [] :: splitZeros ns
  | n :: ns =>
    match splitZeros ns with
    | [] => [[n]]
    | c :: cs => (n :: c) :: cs

/-- The classes of characters that differ in case only. -/
def caseClasses : List (List Nat) :=
  expandRuns (CharSet.readNumbers none pairsTable.toList)
    ++ splitZeros (CharSet.readNumbers none classesTable.toList)

end TypedDocs.Unicode

namespace TypedDocs.CharSet

/-- A set with every character that differs in case only from a member. -/
def foldCase (s : CharSet) : CharSet :=
  let add (s : CharSet) (n : Nat) : CharSet := if s.contains n then s else s.union (singleton n)
  let touched := Unicode.caseClasses.filter fun c => c.any s.contains
  touched.foldl (fun s c => c.foldl add s) s

/-- A set with the other case of every ASCII letter. -/
def foldAsciiCase (s : CharSet) : CharSet :=
  let classes := (List.range 26).map fun i => [65 + i, 97 + i]
  let touched := classes.filter fun c => c.any s.contains
  touched.foldl (fun s c => c.foldl (fun s n => s.union (singleton n)) s) s

end TypedDocs.CharSet
