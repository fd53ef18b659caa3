-- SUMMARY: The classes of characters that decide where graphemes, words and sentences end.
import ConfigKit.Unicode.NamedSet

/-!
# Breaks in text

The classes of characters that decide where graphemes, words and sentences end.
-/

namespace ConfigKit

namespace Unicode

def graphemeBreaks : List NamedSet := [
  ⟨["cn", "control"],
    ["0.9 2.1 2.11 60.20 e 56f 11f2 7fd 3.1 19.6 32.f de90 f1.b 3435.f 8861.3 14d0.7 c2e86.1f",
     "61.7f f1.e0f"]⟩,
  ⟨["cr"],
    ["d"]⟩,
  ⟨["ex", "extend"],
    ["300.6f 114.6 108.2c 2 2.1 2.1 2 49.a 31.14 11 66.6 3.5 3.1 2.3 24 1f.1a 5c.a 3b.8 a 19.3 2.8",
     "2.2 2.4 2c.2 3d.7 2b.17 2.1f 38 2 5.7 5 4.6 b.1 1e 3b 2 3.3 9 a b.1 1b 3.1 3a 5.1 5.1 3.2 4",
     "1f.1 4 c.1 3a 5.4 2.1 5 15.1 17.5 2 3b 2.1 2.3 9 8.2 b.1 1f 3c 2 d a 29 4 38 2.2 6.2 2.3 8.1",
     "c.1 1e 3b 3 3 4 6.1 8.1 c.1 1d.1 3a.1 2 3.3 9 a b.1 1e 49 5 3.2 2 9 52 3.6 d.7 63 3.8 c.6",
     "4a.1 1c 2 2 38.d 2.4 2.1 6.a 2.23 a 67.3 2.5 2.1 3.1 1a.1 5.2 11.3 e 3.1 7 10 2c0.2 3b3.2",
     "1e.1 1f.1 1f.1 41.1 2.6 9 3.a a 2e.2 2 76.1 23 77.2 5.1 a 7.2 dc.1 3 3b 2.6 2 2 3.7 7.9 3",
     "31.1e 32.3 31.6 2 6 29.8 d.1 21.3 3.1 2.2 39 2.1 4 2.2 3b.7 3.1 99.2 2.c 2.6 5 7 4.1 c7.3f",
     "20d c4.20 bff.2 8e 61.1f 22b.5 6a.1 75d5.3 2.9 21.1 51.1 111 4 5 1a.1 6 98.1 1b.11 e 27.7",
     "1a.a 2f.2 31 3.3 3.1 28 44.5 3.1 3.1 d 9 30 34 2.2 3.1 6.1 2 2b.1 9 ef 3 5 4f31 2e2.f 11.f",
     "16f.1 25e e3 96.4 687.2 2.1 6.3 29.2 5 a6.1 23e.3 184.1 51.2 47.a 32.3 7c 37.e 2a 3.1 b.2",
     "32.3 3.1 8 3e.2 25.4 2.7 3f d.1 35.8 b.3 3 60.2 3 2.1 7 3 9e 4.7 16.1 3a.1 2 2 17 f.6 4.4",
     "c4.7 3.2 2 18 52 3.5 2 3 2.1 2.1 ec 3.3 7.1 2.1 1c.1 56.7 3 2.1 6b 2 3.5 2 66.2 3.3 2.4",
     "104.8 2.1 f6 b.1 2 5 91.3 3.1 5 21.9 29.5 3.3 9 a.5 3.2 2f.c 2.1 197.6 2.5 2 53.15 3.6 2.1",
     "2.1 7b.5 4 2.1 2.6 2 49.1 4 2 15c.1 c.1 35.4 6 2 14fe 7.e 369b.4 3c.6 419 40.3 52 4cb9.1",
     "1262.2d 3.16 21f 2.2 5.4 9.7 3.6 1f.3 95.2 7bc.36 5.31 9 f 17.4 2.e 551.6 2.10 3.6 2.1 2.4",
     "65 a1.6 178 3e.3 1fd.3 3e1.6 6e.6 ab1.4 c0c21.5f 81.ef"]⟩,
  ⟨["l"],
    ["1100.5f 9801.1c"]⟩,
  ⟨["lf"],
    ["a"]⟩,
  ⟨["lv"],
    ["ac00 1c 1c 1c 1c 1c 1c 1c 1c 1c 1c 1c 1c 1c 1c 1c 1c 1c 1c 1c 1c 1c 1c 1c 1c 1c 1c 1c 1c 1c",
     "1c 1c 1c 1c 1c 1c 1c 1c 1c 1c 1c 1c 1c 1c 1c 1c 1c 1c 1c 1c 1c 1c 1c 1c 1c 1c 1c 1c 1c 1c 1c",
     "1c 1c 1c 1c 1c 1c 1c 1c 1c 1c 1c 1c 1c 1c 1c 1c 1c 1c 1c 1c 1c 1c 1c 1c 1c 1c 1c 1c 1c 1c 1c",
     "1c 1c 1c 1c 1c 1c 1c 1c 1c 1c 1c 1c 1c 1c 1c 1c 1c 1c 1c 1c 1c 1c 1c 1c 1c 1c 1c 1c 1c 1c 1c",
     "1c 1c 1c 1c 1c 1c 1c 1c 1c 1c 1c 1c 1c 1c 1c 1c 1c 1c 1c 1c 1c 1c 1c 1c 1c 1c 1c 1c 1c 1c 1c",
     "1c 1c 1c 1c 1c 1c 1c 1c 1c 1c 1c 1c 1c 1c 1c 1c 1c 1c 1c 1c 1c 1c 1c 1c 1c 1c 1c 1c 1c 1c 1c",
     "1c 1c 1c 1c 1c 1c 1c 1c 1c 1c 1c 1c 1c 1c 1c 1c 1c 1c 1c 1c 1c 1c 1c 1c 1c 1c 1c 1c 1c 1c 1c",
     "1c 1c 1c 1c 1c 1c 1c 1c 1c 1c 1c 1c 1c 1c 1c 1c 1c 1c 1c 1c 1c 1c 1c 1c 1c 1c 1c 1c 1c 1c 1c",
     "1c 1c 1c 1c 1c 1c 1c 1c 1c 1c 1c 1c 1c 1c 1c 1c 1c 1c 1c 1c 1c 1c 1c 1c 1c 1c 1c 1c 1c 1c 1c",
     "1c 1c 1c 1c 1c 1c 1c 1c 1c 1c 1c 1c 1c 1c 1c 1c 1c 1c 1c 1c 1c 1c 1c 1c 1c 1c 1c 1c 1c 1c 1c",
     "1c 1c 1c 1c 1c 1c 1c 1c 1c 1c 1c 1c 1c 1c 1c 1c 1c 1c 1c 1c 1c 1c 1c 1c 1c 1c 1c 1c 1c 1c 1c",
     "1c 1c 1c 1c 1c 1c 1c 1c 1c 1c 1c 1c 1c 1c 1c 1c 1c 1c 1c 1c 1c 1c 1c 1c 1c 1c 1c 1c 1c 1c 1c",
     "1c 1c 1c 1c 1c 1c 1c 1c 1c 1c 1c 1c 1c 1c 1c 1c 1c 1c 1c 1c 1c 1c 1c 1c 1c 1c 1c 1c"]⟩,
  ⟨["lvt"],
    ["ac01.1a 2.1a 2.1a 2.1a 2.1a 2.1a 2.1a 2.1a 2.1a 2.1a 2.1a 2.1a 2.1a 2.1a 2.1a 2.1a 2.1a 2.1a",
     "2.1a 2.1a 2.1a 2.1a 2.1a 2.1a 2.1a 2.1a 2.1a 2.1a 2.1a 2.1a 2.1a 2.1a 2.1a 2.1a 2.1a 2.1a",
     "2.1a 2.1a 2.1a 2.1a 2.1a 2.1a 2.1a 2.1a 2.1a 2.1a 2.1a 2.1a 2.1a 2.1a 2.1a 2.1a 2.1a 2.1a",
     "2.1a 2.1a 2.1a 2.1a 2.1a 2.1a 2.1a 2.1a 2.1a 2.1a 2.1a 2.1a 2.1a 2.1a 2.1a 2.1a 2.1a 2.1a",
     "2.1a 2.1a 2.1a 2.1a 2.1a 2.1a 2.1a 2.1a 2.1a 2.1a 2.1a 2.1a 2.1a 2.1a 2.1a 2.1a 2.1a 2.1a",
     "2.1a 2.1a 2.1a 2.1a 2.1a 2.1a 2.1a 2.1a 2.1a 2.1a 2.1a 2.1a 2.1a 2.1a 2.1a 2.1a 2.1a 2.1a",
     "2.1a 2.1a 2.1a 2.1a 2.1a 2.1a 2.1a 2.1a 2.1a 2.1a 2.1a 2.1a 2.1a 2.1a 2.1a 2.1a 2.1a 2.1a",
     "2.1a 2.1a 2.1a 2.1a 2.1a 2.1a 2.1a 2.1a 2.1a 2.1a 2.1a 2.1a 2.1a 2.1a 2.1a 2.1a 2.1a 2.1a",
     "2.1a 2.1a 2.1a 2.1a 2.1a 2.1a 2.1a 2.1a 2.1a 2.1a 2.1a 2.1a 2.1a 2.1a 2.1a 2.1a 2.1a 2.1a",
     "2.1a 2.1a 2.1a 2.1a 2.1a 2.1a 2.1a 2.1a 2.1a 2.1a 2.1a 2.1a 2.1a 2.1a 2.1a 2.1a 2.1a 2.1a",
     "2.1a 2.1a 2.1a 2.1a 2.1a 2.1a 2.1a 2.1a 2.1a 2.1a 2.1a 2.1a 2.1a 2.1a 2.1a 2.1a 2.1a 2.1a",
     "2.1a 2.1a 2.1a 2.1a 2.1a 2.1a 2.1a 2.1a 2.1a 2.1a 2.1a 2.1a 2.1a 2.1a 2.1a 2.1a 2.1a 2.1a",
     "2.1a 2.1a 2.1a 2.1a 2.1a 2.1a 2.1a 2.1a 2.1a 2.1a 2.1a 2.1a 2.1a 2.1a 2.1a 2.1a 2.1a 2.1a",
     "2.1a 2.1a 2.1a 2.1a 2.1a 2.1a 2.1a 2.1a 2.1a 2.1a 2.1a 2.1a 2.1a 2.1a 2.1a 2.1a 2.1a 2.1a",
     "2.1a 2.1a 2.1a 2.1a 2.1a 2.1a 2.1a 2.1a 2.1a 2.1a 2.1a 2.1a 2.1a 2.1a 2.1a 2.1a 2.1a 2.1a",
     "2.1a 2.1a 2.1a 2.1a 2.1a 2.1a 2.1a 2.1a 2.1a 2.1a 2.1a 2.1a 2.1a 2.1a 2.1a 2.1a 2.1a 2.1a",
     "2.1a 2.1a 2.1a 2.1a 2.1a 2.1a 2.1a 2.1a 2.1a 2.1a 2.1a 2.1a 2.1a 2.1a 2.1a 2.1a 2.1a 2.1a",
     "2.1a 2.1a 2.1a 2.1a 2.1a 2.1a 2.1a 2.1a 2.1a 2.1a 2.1a 2.1a 2.1a 2.1a 2.1a 2.1a 2.1a 2.1a",
     "2.1a 2.1a 2.1a 2.1a 2.1a 2.1a 2.1a 2.1a 2.1a 2.1a 2.1a 2.1a 2.1a 2.1a 2.1a 2.1a 2.1a 2.1a",
     "2.1a 2.1a 2.1a 2.1a 2.1a 2.1a 2.1a 2.1a 2.1a 2.1a 2.1a 2.1a 2.1a 2.1a 2.1a 2.1a 2.1a 2.1a",
     "2.1a 2.1a 2.1a 2.1a 2.1a 2.1a 2.1a 2.1a 2.1a 2.1a 2.1a 2.1a 2.1a 2.1a 2.1a 2.1a 2.1a 2.1a",
     "2.1a 2.1a 2.1a 2.1a 2.1a 2.1a 2.1a 2.1a 2.1a 2.1a 2.1a 2.1a 2.1a 2.1a 2.1a 2.1a 2.1a 2.1a",
     "2.1a 2.1a 2.1a"]⟩,
  ⟨["pp", "prepend"],
    ["600.5 d8 32 181.1 51 46c 1036f 10 f5.1 77c 2 f9 4a.5 2bd 1bc"]⟩,
  ⟨["ri", "regionalindicator"],
    ["1f1e6.19"]⟩,
  ⟨["sm", "spacingmark"],
    ["903 38 3.2 9.3 2.1 33.1 3c.1 7.1 3.1 37 3b.2 43 3b.2 9 2.1 36.1 3d 7.1 3.1 73 2.1 4.2 2.2",
     "35.2 3e.3 3e.1 3b 2.1 2.1 3.1 2.1 28 f.1 3c.1 6.2 2.2 36.1 4d.1 7.6 14.1 40 80 8b.1 40 b2",
     "a.1 1a.1 2d 691 1f 82 8.7 2.1 15b.3 3.2 5.1 2.5 e1.1 3b 2 16.5 92 37 2.4 2.1 3e 1f 5.1 3 3d",
     "3.2 2 4.1 31.7 9.1 ac 16 8b2c.1 3 59.1 33.f 8f.1 30 31.1 5.1 3.2 6f.1 3.1 19 9e 3.1 6 ee.1",
     "2.1 2.1 2 6414 2 80 2e.2 5.1 74 19.1 3c 31.2 a.1 e 5e.2 4.1 2 ab.2 20.1 3c 2.3 3.1 3.2 15.1",
     "d2.2 9.1 4 6c.1 7 2.1 2 3 ef.1 7.3 3 72.2 9.1 2 6e 2.1 7 70 106.2 a f9.4 2.1 5 3 2 8f.2 9.3",
     "5 55 1e.1 3f 198 f 6b 8 3 d6.4 5.1 2 15f.1 d 31.1 9.1 2 5010.36 69.1 6175 7"]⟩,
  ⟨["t"],
    ["11a8.57 c5cc.30"]⟩,
  ⟨["v"],
    ["1160.47 c609.16"]⟩,
  ⟨["zwj"],
    ["200d"]⟩]

def wordBreaks : List NamedSet := [
  ⟨["cr"],
    ["d"]⟩,
  ⟨["dq", "doublequote"],
    ["22"]⟩,
  ⟨["ex", "extendnumlet"],
    ["5f 1fd0 10.1 14 dddf.1 19.2 f0"]⟩,
  ⟨["extend"],
    ["300.6f 114.6 108.2c 2 2.1 2.1 2 49.a 31.14 11 66.6 3.5 3.1 2.3 24 1f.1a 5c.a 3b.8 a 19.3 2.8",
     "2.2 2.4 2c.2 3d.7 2b.17 2.20 37.2 2.11 2.6 b.1 1e.2 39 2.6 3.1 3.2 a b.1 1b 3.2 39 2.4 5.1",
     "3.2 4 1f.1 4 c.2 39 2.7 2.2 2.2 15.1 17.5 2.2 39 2.6 3.1 3.2 8.2 b.1 1f 3c.4 4.2 2.3 a 29.4",
     "38 2.6 2.2 2.3 8.1 c.1 1e.2 39 2.6 2.2 2.3 8.1 c.1 10 d.3 38.1 2.6 2.2 2.3 a b.1 1e.2 47 5.5",
     "2 2.7 13.1 3e 3.6 d.7 63 3.8 c.6 4a.1 1c 2 2 5.1 32.13 2.1 6.a 2.23 a 65.13 18.3 5.2 2.2 3.6",
     "4.3 e.b 2 b.3 2c0.2 3b3.3 1d.2 1e.1 1f.1 41.1f a 2e.2 2 76.1 23 77.b 5.b dc.4 3a.9 2.1c 3",
     "31.1e 32.4 30.10 27.8 d.2 1f.c 39.d 31.13 99.2 2.14 5 7 3.2 c7.3f 20d c4.20 bff.2 8e 61.1f",
     "22b.5 6a.1 75d5.3 2.9 21.1 51.1 111 4 5 18.4 5 54.1 33.11 1b.11 e 27.7 1a.c 2d.3 30.d 25",
     "44.d d 9.1 2e.2 33 2.2 3.1 6.1 2 2a.4 6.1 ed.7 2.1 4f31 2e2.f 11.f 16f.1 25e e3 96.4 687.2",
     "2.1 6.3 29.2 5 a6.1 23e.3 184.1 51.2 47.a 32.3 7b.2 36.e 2a 3.1 b.3 2e.a 8 3e.2 25.d 11.1 2d",
     "d.2 31.d 9.3 2.1 5d.b 7 3 9e.b 16.3 38.1 2.6 3.1 3.2 a b.1 3.6 4.4 c1.11 18 52.13 ec.6 3.8",
     "1c.1 53.10 6b.c 66.e 101.e f6.5 2.1 3.3 2 2.1 8e.6 3.6 4 1d.9 29.6 2.3 9 a.a 2f.f 196.7 2.7",
     "53.15 2.d 7b.5 4 2.1 2.6 2 43.4 2.1 2.4 15c.3 a.1 2 31.6 4.4 14fe 7.e 369b.4 3c.6 419 2.36",
     "8.3 52 c.1 4cac.1 1262.2d 3.16 21f.4 4.5 9.7 3.6 1f.3 95.2 7bc.36 5.31 9 f 17.4 2.e 551.6",
     "2.10 3.6 2.1 2.4 65 a1.6 178 3e.3 1fd.3 3e1.6 6e.6 ab1.4 c0c21.5f 81.ef"]⟩,
  ⟨["fo", "format"],
    ["ad 553.5 17 c1 32 181.1 51 f2c 800.1 1b.4 32.4 2.9 de90 fa.2 10c2 10 2363.f 8861.3 14d0.7",
     "c2e87"]⟩,
  ⟨["hl", "hebrewletter"],
    ["5d0.1a 5.3 f52b 2.9 2.c 2.4 2 2.1 2.1 2.9"]⟩,
  ⟨["ka", "katakana"],
    ["3031.4 66.1 4.5a 2.3 f1.f d1.2e 2.57 cc0f.37 b053.3 2.6 2.1 2 120.2 33 f.3"]⟩,
  ⟨["le", "aletter"],
    ["41.19 7.19 30 b 5 6.16 2.1e 2.1df 7.21 71.4 2.1 3.3 2 7 2.2 2 2.13 2.52 2.8a 9.a5 2.25 3.3 2",
     "2.28 2 69 2d.2a 24.1 2.62 2 10.1 8.1 b.2 3 11 2.1d 1e.58 c 19.20 a.1 5 6.15 5 a 4 18.18 8.a",
     "6.17 2.5 12.29 3b.35 4 13 8.9 10.f 5.7 3.1 3.15 2.6 2 4.3 4 11 e.1 2.2 f.1 b 9.5 5.1 3.15",
     "2.6 2.1 2.1 2.1 20.3 2 14.2 11.8 2.2 2.15 2.6 2.1 2.4 4 13 10.1 18 c.7 3.1 3.15 2.6 2.1 2.4",
     "4 1f.1 2.2 10 12 2.5 4.2 2.3 4.1 2 2.1 4.1 4.2 4.b 17 35.7 2.2 2.16 2.f 4 1b.2 3 3.1 1f 5.7",
     "2.2 2.16 2.9 2.4 4 20.1 2.1 10.1 12.8 2.2 2.28 3 11 6.2 9.2 19.5 6.11 4.17 2.8 2 3.6 13a",
     "40.7 2.23 1c.4 114.25 2 6 3.2a 2.14c 2.3 3.6 2 2.3 3.28 2.3 3.20 2.3 3.6 2 2.3 3.e 2.38 2.3",
     "3.42 26.f 11.55 3.5 4.26b 3.10 2.19 6.4a 4.a 8.11 e.12 f.11 f.c 2.2 b0.58 8.4 3.21 2 6.45",
     "b.1e e2.16 ef.2e 12.7 37.1d e.1 b.2b 1b.23 2a.2 b.23 3.8 8.2a 3.2 2a.3 2.5 2.1 4 6.bf 41.115",
     "3.5 3.25 3.5 3.7 2 2 2 2.1e 3.34 2.6 2 4.2 2.6 4.3 3.5 5.c 6.2 2.6 75 e 11.c 66 5 3.9 2 4.4",
     "7 2 2 2.3 2.a 3.3 6.4 5 12.28 32e.33 717.e4 7.3 4.1 d.25 2 6 3.37 8 11.16 a.6 2.6 2.6 2.6",
     "2.6 2.6 2.6 2.6 51 1d6 36.1 c9.2a 2.5d 12.1f 6e41.48c 44.2d 3.10c 4.f b.1 15.2e 11.1e 3.4f",
     "19.c2 6.1 2 2.4 19.f 2.2 2.3 2.16 1e.33 f.31 3f.5 4 2.1 c.1b b.16 1a.1c 8.2e 1d 31.28 18.2",
     "2.7 95.a 8.2 d.5 3.5 3.5 a.6 2.6 2.39 7.72 1e.2ba3 d.16 5.30 2305.6 d.4 39.61 22.16a 13.3f",
     "3.35 29.b 75.4 2.86 25.19 7.19 46.1e 4.5 3.5 3.5 3.2 24.b 2.19 2.12 2.1 2.e 3.d 23.7a 46.34",
     "10c.1c 4.30 30.1f e.1d 6.25 b.1d 3.23 5.7 2.4 2b.9d 13.23 5.23 5.27 9.33 d.a 2.e 2.6 2.1 2.a",
     "2.e 2.6 2.1 44.136 a.15 b.7 19.5 2.29 2.8 46.5 3 2.2b 2.1 4 3.16 b.16 a.1e 42.12 2.1 b.15",
     "b.19 47.37 7.1 41 10.3 2.2 2.1c 2b.1c 4.1c 24.7 2.1b 1c.35 b.15 b.12 e.11 6f.48 38.32 e.32",
     "e.23 15d.29 7.1 4f.1c b 9.15 2b.11 2f.14 1c.16 d.34 3a.1 3 e.2c 21.18 1b.23 1e 3 9.22 4 d.2f",
     "f.3 16 2 24.11 2.18 14.1 40.6 2 2.3 2.e 2.9 8.2e 27.7 3.1 3.15 2.6 2.1 2.4 4 13 d.4 9f.34",
     "13.3 15.2 1f.2f 15.1 2 b9.2e 2a.3 25.2f 15 3c.2a e 148.2b 75.3f 20.7 3 3.7 2.1 2.17 10 2",
     "5f.7 3.26 11 2 1d b.27 8 16 c.2d 14 13.48 108.8 2.24 12 32.1d 71.6 2.1 2.25 16 1a.5 2.1 2.1f",
     "f 148.12 10 2.c 2.21 7d 50.399 67.6e 12.c3 a4d.60 10.42f 12.5 fba.246 21ba.238 8.1e 12.4e",
     "12.1d 13.2f 11.3 20.14 6.12 2b1.3f 81.4a 6 43.c 41.1 2 4c1d.6a 6.c 4.8 8.9 1767.54 2.46 2.1",
     "3 3.1 3.3 2.b 2 2.6 2.40 2.3 3.7 2.6 2.1b 2.3 2.4 2 4.6 2.153 3.18 2.18 2.1e 2.18 2.1e 2.18",
     "2.1e 2.18 2.1e 2.18 2.7 735.1e 7.5 106.3d 93.2c b.6 11 142.1d 13.2b 1e5.1b 2f5.6 2.3 2.1 2.e",
     "2.c4 3c.43 8 4b5.3 2.1a 2.1 2 3 2.9 2.3 2 2 7 5 2 2 2.2 2.1 2 3 2 2 2 2 2.1 2 3.3 2.6 2.3",
     "2.3 2 2.9 2.10 6.2 2.4 2.10 275.19 7.19 7.19"]⟩,
  ⟨["lf"],
    ["a"]⟩,
  ⟨["mb", "midnumlet"],
    ["2e 1fea.1 b de2e b5 7"]⟩,
  ⟨["ml", "midletter"],
    ["3a 7d 2d0 1d8 95 1a33 ddec 42 c5"]⟩,
  ⟨["mn", "midnum"],
    ["2c f 343 20b 83.1 5f 18c 184c ddcc 4 3c 4 b8 f"]⟩,
  ⟨["nl", "newline"],
    ["b.1 79 1fa3.1"]⟩,
  ⟨["nu", "numeric"],
    ["30.9 627.9 2 85.9 c7.9 19d.9 77.9 77.9 77.9 77.9 77.9 77.9 77.9 77.9 77.9 61.9 77.9 47.9",
     "117.9 47.9 747.9 27.9 12d.9 81.9 a7.9 7.9 b7.9 57.9 87.9 7.9 89c7.9 2a7.9 27.9 c7.9 17.9",
     "57.9 197.9 5317.9 587.9 887.9 32d.9 81.9 3d.9 91.9 117.9 157.9 77.9 177.9 67.9 67.9 1a7.9",
     "67.9 2f7.9 f7.9 47.9 1a7.9 4b07.9 57.9 87.9 6c75.31 941.9 1a7.9 1f7.9 457.9 1297.9"]⟩,
  ⟨["ri", "regionalindicator"],
    ["1f1e6.19"]⟩,
  ⟨["sq", "singlequote"],
    ["27"]⟩,
  ⟨["wsegspace"],
    ["20 1660 980.6 2.2 55 fa1"]⟩,
  ⟨["zwj"],
    ["200d"]⟩]

def sentenceBreaks : List NamedSet := [
  ⟨["at", "aterm"],
    ["2e 1ff6 de2e bc"]⟩,
  ⟨["cl", "close"],
    ["22 5.2 32 2 1e 2 2e 10 e7f.3 75e.1 97c.7 1a.1 b.1 37.1 f.1 27a.3 1e.1 431.5 8.d 50.1 20.9",
     "194.15 40.3 21.1 403.d f.1 3.9 19 13.7 1ac.9 3.7 2.2 cd1f.1 d8.1 1d.f 3.1 11.5 aa.1 32 2 1e",
     "2 2.1 2.1 f713.2"]⟩,
  ⟨["cr"],
    ["d"]⟩,
  ⟨["ex", "extend"],
    ["300.6f 114.6 108.2c 2 2.1 2.1 2 49.a 31.14 11 66.6 3.5 3.1 2.3 24 1f.1a 5c.a 3b.8 a 19.3 2.8",
     "2.2 2.4 2c.2 3d.7 2b.17 2.20 37.2 2.11 2.6 b.1 1e.2 39 2.6 3.1 3.2 a b.1 1b 3.2 39 2.4 5.1",
     "3.2 4 1f.1 4 c.2 39 2.7 2.2 2.2 15.1 17.5 2.2 39 2.6 3.1 3.2 8.2 b.1 1f 3c.4 4.2 2.3 a 29.4",
     "38 2.6 2.2 2.3 8.1 c.1 1e.2 39 2.6 2.2 2.3 8.1 c.1 10 d.3 38.1 2.6 2.2 2.3 a b.1 1e.2 47 5.5",
     "2 2.7 13.1 3e 3.6 d.7 63 3.8 c.6 4a.1 1c 2 2 5.1 32.13 2.1 6.a 2.23 a 65.13 18.3 5.2 2.2 3.6",
     "4.3 e.b 2 b.3 2c0.2 3b3.3 1d.2 1e.1 1f.1 41.1f a 2e.2 2 76.1 23 77.b 5.b dc.4 3a.9 2.1c 3",
     "31.1e 32.4 30.10 27.8 d.2 1f.c 39.d 31.13 99.2 2.14 5 7 3.2 c7.3f 20d.1 c3.20 bff.2 8e 61.1f",
     "22b.5 6a.1 75d5.3 2.9 21.1 51.1 111 4 5 18.4 5 54.1 33.11 1b.11 e 27.7 1a.c 2d.3 30.d 25",
     "44.d d 9.1 2e.2 33 2.2 3.1 6.1 2 2a.4 6.1 ed.7 2.1 4f31 2e2.f 11.f 16f.1 25e e3 96.4 687.2",
     "2.1 6.3 29.2 5 a6.1 23e.3 184.1 51.2 47.a 32.3 7b.2 36.e 2a 3.1 b.3 2e.a 8 3e.2 25.d 11.1 2d",
     "d.2 31.d 9.3 2.1 5d.b 7 3 9e.b 16.3 38.1 2.6 3.1 3.2 a b.1 3.6 4.4 c1.11 18 52.13 ec.6 3.8",
     "1c.1 53.10 6b.c 66.e 101.e f6.5 2.1 3.3 2 2.1 8e.6 3.6 4 1d.9 29.6 2.3 9 a.a 2f.f 196.7 2.7",
     "53.15 2.d 7b.5 4 2.1 2.6 2 43.4 2.1 2.4 15c.3 a.1 2 31.6 4.4 14fe 7.e 369b.4 3c.6 419 2.36",
     "8.3 52 c.1 4cac.1 1262.2d 3.16 21f.4 4.5 9.7 3.6 1f.3 95.2 7bc.36 5.31 9 f 17.4 2.e 551.6",
     "2.10 3.6 2.1 2.4 65 a1.6 178 3e.3 1fd.3 3e1.6 6e.6 c16d6.5f 81.ef"]⟩,
  ⟨["fo", "format"],
    ["ad 553.5 17 c1 32 181.1 51 f2c 7fd 3.1 1b.4 32.4 2.9 de90 fa.2 10c2 10 2363.f 8861.3 14d0.7",
     "c2e87"]⟩,
  ⟨["le", "oletter"],
    ["1bb 5.3 d1 25.6 7.b 1b 2 86 1e5 77.1a 5.4 2d.2a 24.1 2.62 2 10.1 8.1 b.2 3 11 2.1d 1e.58 c",
     "19.20 a.1 5 6.15 5 a 4 18.18 8.a 6.17 2.5 12.29 3b.35 4 13 8.9 10.f 5.7 3.1 3.15 2.6 2 4.3 4",
     "11 e.1 2.2 f.1 b 9.5 5.1 3.15 2.6 2.1 2.1 2.1 20.3 2 14.2 11.8 2.2 2.15 2.6 2.1 2.4 4 13",
     "10.1 18 c.7 3.1 3.15 2.6 2.1 2.4 4 1f.1 2.2 10 12 2.5 4.2 2.3 4.1 2 2.1 4.1 4.2 4.b 17 35.7",
     "2.2 2.16 2.f 4 1b.2 3 3.1 1f 5.7 2.2 2.16 2.9 2.4 4 20.1 2.1 10.1 12.8 2.2 2.28 3 11 6.2 9.2",
     "19.5 6.11 4.17 2.8 2 3.6 3b.2f 2.1 d.6 3b.1 2 2.4 2.17 2 2.9 2.1 a 3.4 2 16.3 21 40.7 2.23",
     "1c.4 74.2a 15 11.5 5.3 4 4.1 8.2 5.c d 42.2a 3.14b 2.3 3.6 2 2.3 3.28 2.3 3.20 2.3 3.6 2 2.3",
     "3.e 2.38 2.3 3.42 26.f 72.26b 3.10 2.19 6.4a 4.a 8.11 e.12 f.11 f.c 2.2 10.33 24 5 44.58 8.4",
     "3.21 2 6.45 b.1e 32.1d 3.4 c.2b 5.19 37.16 a.34 53 5e.2e 12.7 37.1d e.1 b.2b 1b.23 2a.2 b.23",
     "13.2a 3.2 2a.3 2.5 2.1 4 43b.3 48.2 3.3 ba8.37 8 11.16 a.6 2.6 2.6 2.6 2.6 2.6 2.6 2.6 51",
     "1d6.2 1a.8 8.4 3.4 5.55 7.2 2.59 2.3 6.2a 2.5d 12.1f 31.f 201.19bf 41.568c 44.2d 3.10c 4.f",
     "b.1 43 11 21.4f 28.8 69 7 68 4.6 2.2 2.3 2.16 1e.33 f.31 3f.5 4 2.1 c.1b b.16 1a.1c 8.2e 1d",
     "11.4 2.9 b.4 2.28 18.2 2.7 15.16 4 4.31 2 4.1 3.4 3 2 19.2 3.a 8.2 d.5 3.5 3.5 a.6 2.6 92.22",
     "1e.2ba3 d.16 5.30 2105.16d 3.69 44 2.9 2.c 2.4 2 2.1 2.1 2.6b 22.16a 13.3f 3.35 29.b 75.4",
     "2.86 6a.37 3.1e 4.5 3.5 3.5 3.2 24.b 2.19 2.12 2.1 2.e 3.d 23.7a 46.34 10c.1c 4.30 30.1f",
     "e.1d 6.25 b.1d 3.23 5.7 2.4 7b.4d 63.27 9.33 9d.136 a.15 b.7 1a.1 7e.5 3 2.2b 2.1 4 3.16",
     "b.16 a.1e 42.12 2.1 b.15 b.19 47.37 7.1 41 10.3 2.2 2.1c 2b.1c 4.1c 24.7 2.1b 1c.35 b.15",
     "b.12 e.11 6f.48 b8.23 15d.29 7.1 4f.1c b 9.15 2b.11 2f.14 1c.16 d.34 3a.1 3 e.2c 21.18 1b.23",
     "1e 3 9.22 4 d.2f f.3 16 2 24.11 2.18 14.1 40.6 2 2.3 2.e 2.9 8.2e 27.7 3.1 3.15 2.6 2.1 2.4",
     "4 13 d.4 9f.34 13.3 15.2 1f.2f 15.1 2 b9.2e 2a.3 25.2f 15 3c.2a e 48.1a 26.6 ba.2b d4.7 3",
     "3.7 2.1 2.17 10 2 5f.7 3.26 11 2 1d b.27 8 16 c.2d 14 13.48 108.8 2.24 12 32.1d 71.6 2.1",
     "2.25 16 1a.5 2.1 2.1f f 148.12 10 2.c 2.21 7d 50.399 67.6e 12.c3 a4d.60 10.42f 12.5 fba.246",
     "21ba.238 8.1e 12.4e 12.1d 13.2f 11.3 20.14 6.12 371.4a 6 43.c 41.1 2 1d.17f7 9.4d5 2b.8",
     "22e8.3 2.6 2.1 2.122 10 1e.2 3 f.3 9.18b 905.6a 6.c 4.8 8.9 2271 1f6.2c b.6 11 142.1d 13.2b",
     "1e5.1b 2f5.6 2.3 2.1 2.e 2.c4 87 4b5.3 2.1a 2.1 2 3 2.9 2.3 2 2 7 5 2 2 2.2 2.1 2 3 2 2 2 2",
     "2.1 2 3.3 2.6 2.3 2.3 2 2.9 2.10 6.2 2.4 2.10 1145.a6df 21.1039 7.dd 3.1681 f.1d30 c20.21d",
     "5e3.134a 6.105f"]⟩,
  ⟨["lf"],
    ["a"]⟩,
  ⟨["lo", "lower"],
    ["61.19 30 b 5 25.17 2.7 2 2 2 2 2 2 2 2 2 2 2 2 2 2 2 2 2 2 2 2 2 2 2 2 2 2 2 2.1 2 2 2 2 2 2",
     "2 2.1 2 2 2 2 2 2 2 2 2 2 2 2 2 2 2 2 2 2 2 2 2 2 2 3 2 2.2 3 2 3 4.1 5 3 4.2 3 3 2 2 3 2.1",
     "2 3 4 2 3.1 3.2 7 3 3 2 2 2 2 2 2 2 2.1 2 2 2 2 2 2 2 2 2.1 3 2 4 2 2 2 2 2 2 2 2 2 2 2 2 2",
     "2 2 2 2 2 2 2 2 2 2 2 2 2 2 2 2.6 3 3.1 2 5 2 2 2 2.44 2.23 8.1 1f.4 8d 2 4 3.3 13 1c.22 2.1",
     "4.2 2 2 2 2 2 2 2 2 2 2 2 2.4 2 3 3.1 34.2f 2 2 2 2 2 2 2 2 2 2 2 2 2 2 2 2 2 a 2 2 2 2 2 2",
     "2 2 2 2 2 2 2 2 2 2 2 2 2 2 2 2 2 2 2 2 3 2 2 2 2 2 2.1 2 2 2 2 2 2 2 2 2 2 2 2 2 2 2 2 2 2",
     "2 2 2 2 2 2 2 2 2 2 2 2 2 2 2 2 2 2 2 2 2 2 2 2 2 2 2 2 2 2 31.28 b74 2fc.5 883.8 78.bf 42 2",
     "2 2 2 2 2 2 2 2 2 2 2 2 2 2 2 2 2 2 2 2 2 2 2 2 2 2 2 2 2 2 2 2 2 2 2 2 2 2 2 2 2 2 2 2 2 2",
     "2 2 2 2 2 2 2 2 2 2 2 2 2 2 2 2 2 2 2 2 2 2 2 2 2 2 2.8 2 2 2 2 2 2 2 2 2 2 2 2 2 2 2 2 2 2",
     "2 2 2 2 2 2 2 2 2 2 2 2 2 2 2 2 2 2 2 2 2 2 2 2 2 2 2 2 2 2 2.8 9.5 b.7 9.7 9.5 b.7 9.7 9.d",
     "3.7 9.7 9.7 9.4 2.1 7 4.2 2.1 9.3 3.1 9.7 b.2 2.1 7a e 11.c 6e 4.1 4 1c 5 5 3.1 9.3 5 22.f 5",
     "34c.19 747.2f 2 4.1 2 2 2 5 2.1 2.7 4 2 2 2 2 2 2 2 2 2 2 2 2 2 2 2 2 2 2 2 2 2 2 2 2 2 2 2",
     "2 2 2 2 2 2 2 2 2 2 2 2 2 2 2 2 2 2 2 2 2 2.1 8 2 5 d.25 2 6 7914 2 2 2 2 2 2 2 2 2 2 2 2 2",
     "2 2 2 2 2 2 2 2 2 14 2 2 2 2 2 2 2 2 2 2 2 2 2.2 86 2 2 2 2 2 2.2 2 2 2 2 2 2 2 2 2 2 2 2 2",
     "2 2 2 2 2 2 2 2 2 2 2 2 2 2 2 2 2 2.9 2 2 3 2 2 2 2 5 2 3 2.2 2 2 2 2 2 2 2 2 2 2 6 6 2 2 2",
     "2 2 2 2 5 2 7 2 2 2 2 19.2 2 2.2 336.2a 2.d 7.4f 4f41.6 d.4 42a.19 4ce.27 89.23 9c.a 2.e 2.6",
     "2.1 1c4 3.2 2.29 2.8 506.32 bce.1f 5581.1f 659b.19 1b.6 2.11 1b.19 1b.3 2 2.6 2.a 1b.19",
     "1b.19 1b.19 1b.19 1b.19 1b.19 1b.19 1b.19 1b.1b 1d.18 2.5 1b.18 2.5 1b.18 2.5 1b.18 2.5",
     "1b.18 2.5 2 735.9 2.13 7.5 106.3d 8b5.21"]⟩,
  ⟨["nu", "numeric"],
    ["30.9 627.9 2.1 84.9 c7.9 19d.9 77.9 77.9 77.9 77.9 77.9 77.9 77.9 77.9 77.9 61.9 77.9 47.9",
     "117.9 47.9 747.9 27.9 12d.9 81.9 a7.9 7.9 b7.9 57.9 87.9 7.9 89c7.9 2a7.9 27.9 c7.9 17.9",
     "57.9 197.9 5317.9 587.9 887.9 32d.9 81.9 3d.9 91.9 117.9 157.9 77.9 177.9 67.9 67.9 1a7.9",
     "67.9 2f7.9 f7.9 47.9 1a7.9 4b07.9 57.9 87.9 6c75.31 941.9 1a7.9 1f7.9 457.9 1297.9"]⟩,
  ⟨["sc", "scontinue"],
    ["2c.1 d 523 af.1 1eb 100a 6 80b.1 fed ce0f.1 2 1e.1 1e.1 4 3 b a9.1 d 4a"]⟩,
  ⟨["se", "sep"],
    ["85 1fa3.1"]⟩,
  ⟨["sp"],
    ["9 2.1 14 80 15e0 980.a 25 30 fa1"]⟩,
  ⟨["st", "sterm"],
    ["21 1e 54a 94.2 b5 2c.2 f7 3e 2 4.1 126.1 6e5.1 317 5.1 306 c7.1 cd 6 13b.1 163.3 af.1 3.1",
     "1e.1 bd.1 42.1 3bd.1 a.2 de5 e 17.1 1ae 74fd 10f.1 e4 4 17f.1 57.1 60 99.1 94.2 91.1 fa",
     "526b.1 aa 1e 42 af5.1 4fe.4 2d.3 be.1 76.3 80.2 82.1 7 11.1 59.1 2.1 6d 1a2.1 176.1 6.e 6a.1",
     "fa.2 206 2 fc.1 58.1 1a5.1 2b5.1 4b.1 4b2a.1 86 42.1 c 354 4e07 1de9"]⟩,
  ⟨["up", "upper"],
    ["41.19 66.16 2.6 22 2 2 2 2 2 2 2 2 2 2 2 2 2 2 2 2 2 2 2 2 2 2 2 2 2 2 2 3 2 2 2 2 2 2 2 3 2",
     "2 2 2 2 2 2 2 2 2 2 2 2 2 2 2 2 2 2 2 2 2 2.1 2 2 4.1 2 2.1 2.2 3.3 2.1 2.2 4.1 2.1 2 2 2.1",
     "2 3 2.1 2.2 2 2.1 4 8.1 2.1 2.1 2 2 2 2 2 2 2 2 3 2 2 2 2 2 2 2 2 3.1 2 2.2 2 2 2 2 2 2 2 2",
     "2 2 2 2 2 2 2 2 2 2 2 2 2 2 2 2 2 2 2 2 2 8.1 2.1 3 2.3 2 2 2 2 122 2 4 9 7 2.2 2 2.1 2.10",
     "2.8 24 3.2 4 2 2 2 2 2 2 2 2 2 2 2 6 3 2.1 3.32 31 2 2 2 2 2 2 2 2 2 2 2 2 2 2 2 2 a 2 2 2 2",
     "2 2 2 2 2 2 2 2 2 2 2 2 2 2 2 2 2 2 2 2 2 2 2.1 2 2 2 2 2 2 3 2 2 2 2 2 2 2 2 2 2 2 2 2 2 2",
     "2 2 2 2 2 2 2 2 2 2 2 2 2 2 2 2 2 2 2 2 2 2 2 2 2 2 2 2 2 2 2 2 3.25 b4a.25 2 6 2d3.55 a0b 2",
     "2 2 2 2 2 2 2 2 2 2 2 2 2 2 2 2 2 2 2 2 2 2 2 2 2 2 2 2 2 2 2 2 2 2 2 2 2 2 2 2 2 2 2 2 2 2",
     "2 2 2 2 2 2 2 2 2 2 2 2 2 2 2 2 2 2 2 2 2 2 2 2 2 2 2 a 2 2 2 2 2 2 2 2 2 2 2 2 2 2 2 2 2 2",
     "2 2 2 2 2 2 2 2 2 2 2 2 2 2 2 2 2 2 2 2 2 2 2 2 2 2 2 2 2 2 a.7 9.5 b.7 9.7 9.5 c 2 2 2 9.7",
     "19.7 9.7 9.7 9.4 c.4 c.3 d.4 c.4 106 5 4.2 3.2 3 4.4 7 2 2 2.3 3.3 b.1 6 1b.f 14 333.19",
     "731.2f 31 2.2 3 2 2 2.3 2 3 9.2 2 2 2 2 2 2 2 2 2 2 2 2 2 2 2 2 2 2 2 2 2 2 2 2 2 2 2 2 2 2",
     "2 2 2 2 2 2 2 2 2 2 2 2 2 2 2 2 2 2 2 9 2 5 794e 2 2 2 2 2 2 2 2 2 2 2 2 2 2 2 2 2 2 2 2 2 2",
     "14 2 2 2 2 2 2 2 2 2 2 2 2 2 88 2 2 2 2 2 2 4 2 2 2 2 2 2 2 2 2 2 2 2 2 2 2 2 2 2 2 2 2 2 2",
     "2 2 2 2 2 2 2 b 2 2.1 2 2 2 2 5 2 3 2 4 2 2 2 2 2 2 2 2 2 2.4 2.4 2 2 2 2 2 2 2 2.3 2 7 6 2",
     "1d 572c.19 4c6.27 89.23 9d.a 2.e 2.6 2.1 6eb.32 bee.1f 5581.1f 65a1.19 1b.19 1b.19 1b 2.1 3",
     "3.1 3.3 2.7 1b.19 1b.1 2.3 3.7 2.6 1c.1 2.3 2.4 2 4.6 1c.19 1b.19 1b.19 1b.19 1b.19 1b.19",
     "1f.18 22.18 22.18 22.18 22.18 22 1136.21 80f.19 7.19 7.19"]⟩]

end Unicode

end ConfigKit
