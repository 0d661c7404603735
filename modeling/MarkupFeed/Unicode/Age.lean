import MarkupFeed.Unicode.Trait

/-!
# The versions that introduced the characters

The versions of Unicode in which code points became characters or noncharacters, after the
property `Age`.

The table says nothing of other code points; there a stretch just goes on.
-/

namespace MarkupFeed.Unicode

/-- The code points by the version they came with, as far as they came with one. -/
def ages : Partition := .ofTable
  "1.1 1f6 3.0 4 1.1 1e 3.0 8 3.2 1 4.0 1 3.0 12 4.0 3 4.1 b 5.0 e 1.1 59 3.0 5 4.0 2 1.1 2f 3.0 1
   1.1 a 3.0 5 4.0 11 1.1 46 3.0 9 3.2 1 4.0 8 4.1 5 4.0 3 1.1 2 3.0 1 3.2 d 5.1 4 1.1 2 5.1 4 1.1
   1 5.0 3 1.1 1 7.0 5 1.1 4b 5.1 1 1.1 7 3.0 1 3.2 2 1.1 1 3.0 1 1.1 1 3.0 1 1.1 1 3.0 1 1.1 1
   3.0 1 1.1 12 3.1 2 3.2 1 4.0 5 4.1 4 3.0 1 1.1 c 3.0 1 1.1 42 3.0 1 1.1 c 3.0 1 1.1 29 5.1 1
   3.0 2 3.2 2 3.0 4 1.1 35 3.2 2 1.1 2 3.2 2 1.1 2 3.2 2 5.0 1 1.1 1c 3.0 2 1.1 8 4.1 2 1.1 2 5.0
   6 3.2 10 5.0 4 5.1 10 5.2 2 6.0 2 7.0 9 1.1 2f 11.0 1 1.1 27 11.0 1 1.1 1 3.0 3 7.0 2 6.1 2 2.0
   11 4.1 1 2.0 d 1.1 a 5.0 1 1.1 9 2.0 1 4.1 b 1.1 1f 11.0 1 1.1 10 4.0 4 6.1 1 7.0 1 5.1 5 4.1 1
   1.1 1 4.0 9 5.1 5 1.1 1 6.3 1 14.0 1 4.1 1 1.1 1 6.0 1 1.1 1a 5.1 5 1.1 13 3.0 3 4.0 3 4.1 6
   6.0 1 1.1 e 3.2 2 1.1 48 3.0 2 1.1 5 3.0 1 1.1 f 3.0 1 1.1 1e 4.0 2 1.1 a 3.0 5 4.0 1 3.0 2d
   4.0 3 3.0 1d 4.0 3 4.1 1e 5.1 12 3.0 31 3.2 f 5.0 3d 11.0 3 5.2 40 6.0 20 10.0 10 14.0 27 16.0
   1 14.0 8 6.1 1 7.0 1 6.1 b 7.0 6 8.0 2 14.0 1 9.0 8 13.0 a 14.0 b 11.0 1 9.0 f 8.0 1 6.1 1b 7.0
   1 5.2 1 1.1 3 4.0 1 1.1 35 6.0 2 1.1 12 5.2 1 6.0 1 1.1 5 5.2 1 6.0 2 1.1 19 5.1 2 6.0 5 7.0 1
   5.2 2 5.0 2 4.1 1 5.0 2 7.0 1 1.1 3c 4.0 1 1.1 10 4.1 9 1.1 24 5.2 1 10.0 2 11.0 3 4.0 1 1.1 1
   4.0 2 1.1 4c 5.1 8 1.1 1c 5.1 1 11.0 b 1.1 b 4.0 1 1.1 54 4.0 5 1.1 a 6.1 1 4.0 8 8.0 1 10.0 7
   1.1 34 4.0 1 1.1 e 5.1 3 1.1 e 13.0 1 1.1 c 5.1 4 1.1 b 4.0 1 6.0 10 1.1 34 4.1 1 1.1 19 5.1 7
   1.1 f 4.1 1 1.1 c 4.0 d 7.0 1 1.1 3 11.0 1 1.1 2f 7.0 1 1.1 7 14.0 1 5.1 1 1.1 1a 5.1 2 8.0 3
   14.0 3 1.1 2 5.1 4 1.1 11 12.0 1 5.1 8 9.0 1 7.0 1 1.1 2 11.0 1 1.1 37 4.0 2 1.1 1f 14.0 1 1.1
   4 5.0 4 1.1 b 5.0 2 15.0 d 10.0 1 7.0 1 1.1 2 13.0 1 1.1 24 6.0 1 1.1 10 6.0 1 10.0 2 5.1 1 1.1
   6 5.1 2 1.1 8 6.0 1 9.0 8 1.1 1 9.0 7 8.0 1 1.1 2 5.1 4 1.1 a 5.1 6 9.0 3 5.1 8 13.0 1 3.0 64
   7.0 c 3.0 f 1.1 85 12.0 1 1.1 2 12.0 1 1.1 2 12.0 1 1.1 1 12.0 6 1.1 4 12.0 1 1.1 7 12.0 1 1.1
   7 12.0 2 1.1 2 12.0 1 1.1 d 12.0 1 1.1 13 15.0 2 1.1 e 6.1 22 2.0 6a 3.0 1 5.1 6 2.0 1b 6.0 4
   2.0 6 3.0 1 2.0 17 3.0 3 2.0 7 3.0 1 2.0 1 3.0 14 5.1 1 3.0 1 4.1 2 5.1 3 5.2 4 6.0 27 3.0 22
   5.1 1 3.0 5 5.1 1 3.0 2 5.1 1 3.0 7 5.1 3 3.0 4 5.1 6 3.0 1a 5.1 40 5.2 4 5.1 2 1.1 27 6.1 9
   1.1 27 3.2 2 4.1 2 1.1 1 4.1 1 6.1 3 1.1 5a 5.2 5 1.1 44 5.2 5 1.1 52 5.2 6 3.0 7 4.1 1 3.0 3f
   4.1 1 3.0 3f 4.1 1 3.0 27 4.1 1 3.0 1f 4.1 1 3.0 1f 4.1 1 3.0 1f 4.1 1 3.0 f 4.1 1 3.0 27 4.1 1
   3.0 15 6.0 2 4.1 2 3.0 1f 4.1 20 3.0 55 8.0 b 5.2 1 3.0 276 5.2 9 3.0 71 7.0 f 3.2 d 14.0 1 3.2
   7 14.0 b 3.2 60 3.0 5d 4.0 3 3.0 10 4.0 10 3.0 f 14.0 1 3.0 68 11.0 8 3.0 2a 5.1 6 5.2 50 4.0
   1d 7.0 3 4.0 60 4.1 2a 5.2 6 4.1 2a 5.2 4 4.1 2 4.0 20 4.1 20 5.2 90 7.0 f 13.0 2 14.0 3f 5.0
   4c 14.0 2 16.0 2 5.0 2d 14.0 2 16.0 1 5.1 2b 6.1 3 5.1 c 6.1 6 6.0 40 5.1 80 9.0 9 16.0 7 11.0
   30 6.1 10 5.2 23 6.1 4 10.0 1 7.0 2 12.0 6 4.0 6c 4.1 58 5.0 7 5.1 1c 7.0 f 10.0 4 14.0 1 9.0 1
   6.0 1 5.2 1 5.0 2 1.1 9b 2.0 1 5.1 4 1.1 5a 5.1 6 1.1 12f 3.0 1 1.1 17 3.2 1 3.0 6 3.2 5 4.0 2
   4.1 2 3.2 1 4.1 7 3.2 5 5.1 2 6.3 4 1.1 7 3.2 3 1.1 1c 4.1 5 6.0 b 1.1 b 2.0 1 2.1 1 3.0 3 3.2
   2 4.1 4 5.2 3 6.0 1 6.2 1 7.0 3 8.0 1 10.0 1 14.0 10 1.1 12 3.0 2 3.2 7 4.1 1 5.0 4 5.1 10 1.1
   39 3.0 2 4.0 1 4.1 1 3.2 f 4.1 1 5.0 2 5.1 1 5.2 3 1.1 30 3.0 1 5.0 1 5.1 4 5.2 1 8.0 6 1.1 5b
   3.0 9 3.2 c 1.1 f2 3.2 e 1.1 1 3.0 1 1.1 79 3.0 1 3.2 1 3.0 1e 3.2 34 4.0 2 4.1 b 5.0 c 5.2 1
   6.0 b 7.0 7 9.0 4 10.0 1 1.1 25 3.0 2 16.0 19 1.1 ab 3.2 14 4.0 1 1.1 96 3.2 a 1.1 50 3.0 8 3.2
   8 1.1 14 4.0 2 3.2 2 4.1 1 3.0 1 1.1 56 3.0 2 3.2 c 4.1 2 3.2 a 4.0 8 4.1 b 5.1 1 5.2 2 4.0 2
   4.1 10 5.0 1 5.1 a 5.2 3 5.1 4 5.2 a 6.0 1 5.2 13 6.0 1 5.2 1 6.0 4 5.2 18 7.0 1 1.1 4 6.0 1
   1.1 4 6.0 2 1.1 1c 6.0 1 1.1 23 6.0 1 1.1 1 6.0 1 1.1 4 6.0 3 1.1 1 5.2 1 1.1 7 6.0 2 1.1 7 3.2
   e 1.1 1f 6.0 3 1.1 18 6.0 1 1.1 e 6.0 1 4.1 7 5.0 4 6.1 1 5.1 1 6.1 1 6.0 2 3.2 1c 5.1 4 3.2 10
   3.0 100 3.2 200 4.0 e 4.1 6 5.0 7 5.1 5 5.0 4 5.1 29 7.0 3 5.1 5 5.2 5 7.0 3d 13.0 1 7.0 22
   11.0 3 7.0 c 12.0 1 7.0 8 10.0 1 11.0 19 8.0 4 11.0 f 12.0 1 4.1 2f 14.0 1 4.1 2f 14.0 1 5.0 d
   5.1 3 5.2 1 5.1 3 5.0 4 5.1 6 5.2 2 4.1 6b 5.2 7 6.1 7 4.1 2e 6.1 9 4.1 36 6.1 9 4.1 1 6.0 10
   4.1 60 5.1 20 4.1 18 5.1 4 4.1 2 5.1 13 5.2 1 6.1 a 7.0 7 9.0 2 10.0 5 11.0 5 12.0 1 13.0 3
   14.0 2d 3.0 17c 15.1 4 1.1 38 3.0 3 3.2 3 3.0 1 1.1 56 3.2 4 1.1 6 3.2 2 1.1 5e 3.2 6 1.1 28
   5.1 1 10.0 1 11.0 2 1.1 6f 3.0 18 6.0 3 13.0 5 4.1 10 5.1 14 16.0 b 15.1 1 3.2 10 1.1 1d 4.0 3
   1.1 24 5.2 c 4.0 1 3.2 f 1.1 1c 4.0 2 4.1 1 1.1 32 3.2 f 1.1 c 4.0 4 1.1 2f 12.1 1 1.1 77 4.0 4
   1.1 63 4.0 2 1.1 1f 4.0 1 3.0 19b6 13.0 a 4.0 40 1.1 51a6 4.1 16 5.1 8 5.2 8 6.1 1 8.0 9 10.0
   15 11.0 5 13.0 d 14.0 3 3.0 4a2 3.2 2 3.0 10 3.2 1 3.0 c 3.2 1 3.0 3 3.2 1 3.0 a 5.2 30 5.1 160
   6.0 2 5.1 12 6.1 8 5.1 1c 7.0 6 8.0 1 6.1 1 5.2 60 4.1 17 5.0 4 5.1 5 5.0 2 5.1 6b 6.0 2 8.0 1
   6.0 2 6.1 2 7.0 c 6.0 a 6.1 1 7.0 3 9.0 1 11.0 1 7.0 2 8.0 6 11.0 2 12.0 6 14.0 2 12.0 5 13.0 4
   16.0 5 14.0 a 16.0 18 14.0 3 13.0 2 7.0 1 6.1 2 6.0 1 5.1 5 4.1 2c 13.0 4 5.2 10 5.0 40 5.1 45
   9.0 9 5.1 12 5.2 1c 8.0 2 11.0 2 5.1 60 5.2 80 7.0 20 5.1 60 5.2 1c 7.0 4 5.2 60 6.1 21 6.0 2f
   7.0 30 8.0 4 7.0 2 12.0 2 13.0 8 8.0 50 5.2 40 2.0 2bb0 5.2 50 2.0 800 1.1 1a2e 6.1 2 3.2 3b
   5.2 5 4.1 90 1.1 1d 3.0 1 1.1 94 6.0 10 14.0 11 1.1 16d 14.0 10 1.1 7f 14.0 1 3.1 20 1.1 c 3.2
   1 4.0 1 14.0 2 3.2 10 4.1 10 1.1 4 5.1 3 7.0 7 8.0 2 1.1 15 3.2 2 4.0 2 1.1 2a 3.2 1 1.1 eb 3.2
   2 1.1 98 3.0 3 2.1 1 1.1 3 4.0 140 4.1 4b 7.0 2 9.0 3 5.1 c 13.0 4 7.0 30 5.1 110 7.0 20 3.1 1f
   7.0 1 3.1 d 10.0 3 3.1 20 7.0 30 4.0 20 4.1 60 3.1 26 4.0 2 3.1 26 4.0 62 9.0 50 7.0 70 14.0 50
   16.0 40 7.0 180 14.0 80 4.0 40 5.2 20 7.0 80 8.0 20 5.0 1a 5.2 5 5.0 1 5.1 60 6.1 3c 8.0 2 6.1
   2 8.0 40 4.1 34 11.0 4 4.1 10 11.0 8 4.1 10 5.2 20 7.0 80 5.2 80 7.0 80 5.2 80 8.0 80 11.0 40
   16.0 120 5.2 20 13.0 42 16.0 3b 15.0 3 11.0 70 14.0 40 13.0 30 12.0 20 6.0 70 14.0 f 7.0 1 5.2
   42 14.0 b 11.0 3 6.1 74 11.0 3 13.0 9 7.0 30 6.1 49 8.0 4 7.0 1 13.0 2 6.1 a 7.0 1 8.0 6 7.0 5d
   9.0 1 15.0 41 8.0 30 7.0 50 8.0 1 7.0 3a 11.0 1 7.0 14 8.0 7 7.0 29 16.0 80 9.0 5a 13.0 1 9.0 3
   11.0 1 12.0 1 13.0 20 7.0 14a 8.0 36 7.0 60 9.0 20 6.1 38 12.0 1 14.0 7 6.1 10 16.0 30 8.0 1a
   11.0 3 8.0 23 14.0 c0 11.0 a0 7.0 60 13.0 a0 12.0 60 10.0 84 12.0 2 10.0 17 11.0 1 10.0 12 14.0
   10 7.0 40 15.0 c0 16.0 40 9.0 100 10.0 60 11.0 1a0 15.0 5a 16.0 56 13.0 10 12.0 40 5.0 36f 7.0
   2a 8.0 67 5.0 63 7.0 d 5.0 4 7.0 c 8.0 b10 14.0 70 5.2 42f 15.0 1 12.0 9 15.0 27 16.0 fa0 8.0
   1d00 16.0 700 6.0 240 7.0 30 14.0 60 7.0 270 16.0 100 11.0 c0 6.1 45 12.0 b 6.1 2f 12.0 10 6.1
   51 9.0 1 10.0 1 12.0 2 13.0 1c 9.0 17ed 11.0 5 12.0 e 9.0 2f3 13.0 20c 16.0 1 13.0 22f0 14.0 10
   6.0 2 10.0 11d 14.0 13 15.0 1e 12.0 5 15.0 f 12.0 c 10.0 a90 7.0 1000 16.0 300 14.0 100 3.1 129
   5.1 1 3.1 b4 8.0 b 14.0 17 4.1 c0 15.0 20 11.0 20 4.0 60 5.0 12 11.0 8e 3.1 c1 4.0 1 3.1 1e2
   4.1 4 3.1 122 5.0 4 3.1 32 8.0 700 14.0 25 15.0 db 9.0 30 15.0 d0 12.0 190 14.0 30 12.0 210
   15.0 100 16.0 210 14.0 20 7.0 100 9.0 4b 12.0 5 9.0 321 11.0 90 12.0 ff 6.1 200 5.1 a0 6.0 1f
   7.0 2 6.0 1f 7.0 20 5.2 b 7.0 2 13.0 3 5.2 1f 11.0 1 6.0 1 5.2 1 6.0 b 5.2 1 6.0 1 5.2 1 6.0 2
   5.2 1 6.0 3 5.2 1 6.0 3 5.2 5 6.0 8 5.2 1 6.0 7 5.2 1 6.0 a 6.1 2 12.0 1 13.0 3 6.0 9 5.2 1 6.0
   1 5.2 2 6.0 2 5.2 1 6.0 a 5.2 4 6.0 2 5.2 1 6.0 a 9.0 12 13.0 39 6.0 1a 5.2 1 6.0 f 5.2 22 6.0
   9 9.0 5 5.2 10 6.0 10 10.0 a0 6.0 21 7.0 c 8.0 3 6.0 6 7.0 1 6.0 46 7.0 1 8.0 2 6.0 14 7.0 c
   6.0 25 7.0 1 6.0 5 7.0 4 8.0 5 7.0 c 6.0 11 7.0 7 8.0 8 6.0 3f 7.0 1 6.0 1 7.0 1 6.0 b6 7.0 1
   6.0 4 7.0 2 8.0 1 6.0 3e 7.0 2 6.1 4 7.0 7 8.0 5 6.0 18 7.0 12 9.0 1 7.0 29 9.0 1 7.0 56 6.0 5
   6.1 1 6.0 10 6.1 1 6.0 3 6.1 1 6.0 1 6.1 1 6.0 1 6.1 1 6.0 1 6.1 1 6.0 3 6.1 1 6.0 6 6.1 2 6.0
   4 6.1 1 6.0 1 6.1 2 6.0 4 6.1 1 6.0 c 7.0 2 8.0 2 6.0 b 7.0 30 6.0 46 7.0 a 8.0 1 9.0 2 10.0 2
   12.0 1 13.0 6 15.0 1 14.0 3 7.0 14 9.0 3 10.0 2 11.0 1 12.0 1 13.0 5 6.0 74 15.0 c 7.0 55 11.0
   4 15.0 7 12.0 10 14.0 10 7.0 b0 13.0 2 16.0 4e 10.0 c 13.0 1 12.0 3 8.0 9 9.0 6 10.0 1 9.0 8
   10.0 8 9.0 1 10.0 2 9.0 c 12.0 1 9.0 c 10.0 1 11.0 3 9.0 f 10.0 d 11.0 5 12.0 1 13.0 1 11.0 4
   13.0 2 14.0 1 11.0 1 12.0 1 11.0 4 8.0 5 9.0 d 10.0 6 11.0 b 13.0 2 12.0 6 13.0 3 12.0 2 11.0 a
   12.0 6 8.0 1 11.0 2 12.0 8 13.0 1 14.0 1 12.0 3 10.0 17 11.0 19 12.0 60 11.0 10 12.0 4 13.0 1
   15.0 3 12.0 3 14.0 5 12.0 3 13.0 4 15.0 2 16.0 7 12.0 6 13.0 13 14.0 4 15.0 3 13.0 7 14.0 4
   15.0 3 16.0 1 15.0 1 13.0 3 14.0 3 16.0 8 15.0 2 13.0 7 14.0 3 15.0 2 16.0 4 14.0 8 15.0 1 16.0
   7 14.0 7 15.0 9 13.0 cb 16.0 25 13.0 40e 2.0 2 3.1 a6d7 13.0 7 14.0 22 5.2 1035 14.0 4 15.0 7
   6.0 e0 8.0 1690 10.0 1d40 15.1 c10 3.1 7fe 2.0 2 13.0 1350 15.0 ecae 2.0 a0003 3.1 ff 4.0 fefe
   2.0 20002"

/-- The versions, in order. -/
def versions : List String :=
  ["1.1", "2.0", "2.1", "3.0", "3.1", "3.2", "4.0", "4.1", "5.0", "5.1", "5.2", "6.0", "6.1", "6.2",
   "6.3", "7.0", "8.0", "9.0", "10.0", "11.0", "12.0", "12.1", "13.0", "14.0", "15.0", "15.1",
   "16.0"]

/-- The code points that came with a version or before it. -/
def cameBy (version : String) : Runs :=
  let earlier := versions.takeWhile (· ≠ version)
  (ages.members fun age => age == version || earlier.contains age).inter
    (unassigned.complement.union noncharacter)

end MarkupFeed.Unicode
