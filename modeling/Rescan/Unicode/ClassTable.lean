import Rescan.Unicode.Runs

/-! # The table of character classes

Three classifications of the characters that a domain name may hold: their direction of
writing, whether they are marks, and how they join with their neighbours.
-/

namespace Rescan.Unicode

/-- Runs of characters with one class of direction. -/
def directionText : String := "
  9/BN 1/S 1/B 1/S 1/WS 1/B e/BN 3/B 1/S 1/WS 2/ON 3/ET 5/ON 1/ES 1/CS 1/ES 2/CS a/EN 1/CS
  12/ON q/L 4/ON y/BN 1/ON 4/ET a/ON 6/ET 15/ON o/L 1/ON ch/L 2/ON 7/L e/ON 2/L s/ON 1/L h/ON
  35/NSM 4/L 2/ON 3j/L 2/ON 3v/L 8/NSM 73/L 5/ON 2/ET 19/NSM 1/R 1/NSM 1/R 2/NSM 1/R 2/NSM 1/R
  9/NSM 1i/R 2/ON 1/AL 2/ET 1/AL 1/CS 1/AL 2/ON b/NSM 1c/AL l/NSM a/AN 1/ET 2/AN 3/AL 1/NSM
  2t/AL 8/NSM 1/ON 6/NSM 2/AL 2/NSM 1/ON 4/NSM 2/AL a/EN n/AL 1/NSM u/AL t/NSM 2h/AL b/NSM
  f/AL 17/R 9/NSM 2/R 4/ON 3/R 1/NSM o/R 4/NSM 1/R 9/NSM 1/R 3/NSM 1/R 7/NSM 15/R 5/NSM 2/R
  1k/AL 8/NSM 16/AL 1l/NSM 1j/L 1/NSM 1/L 1/NSM 4/L 8/NSM 4/L 1/NSM 3/L f/NSM 2/L 2/NSM t/L
  1/NSM 1m/L 1/NSM 4/L 6/NSM 6/L 1/NSM k/L 4/NSM c/L 2/ET 7/L 1/ET 2/L 5/NSM 1l/L 2/NSM 3/L
  r/NSM k/L 2/NSM 3/L 1/NSM b/L 2/NSM 1l/L 1/NSM 4/L 8/NSM 4/L 3/NSM i/L 4/NSM b/L 8/ET 1/L
  8/NSM 1m/L 1/NSM 2/L 1/NSM 1/L 6/NSM 6/L a/NSM b/L 4/NSM s/L 1/NSM 1p/L 1/NSM c/L 3/NSM z/L
  6/ON 1/ET 6/ON 1/NSM 3/L 1/NSM 1j/L 1/NSM 1/L 3/NSM 5/L i/NSM a/L 4/NSM i/L 7/ON 2/L 1/NSM
  1m/L 1/NSM f/L 9/NSM d/L 4/NSM q/L 2/NSM 1l/L 2/NSM 4/L 5/NSM 7/L 1/NSM k/L 4/NSM r/L 1/NSM
  20/L 5/NSM 3/L 6/NSM 2h/L 1/NSM 2/L b/NSM 1/ET 7/L 8/NSM 2q/L 1/NSM 2/L 9/NSM b/L 8/NSM 20/L
  2/NSM r/L 1/NSM 1/L 1/NSM 1/L 1/NSM 4/ON 1f/L e/NSM 1/L 5/NSM 1/L 2/NSM 5/L 1d/NSM 8/L 1/NSM
  2u/L 4/NSM 1/L 6/NSM 1/L 2/NSM 2/L 2/NSM p/L 2/NSM 4/L 3/NSM g/L 4/NSM d/L 1/NSM 2/L 2/NSM
  6/L 1/NSM f/L 1/NSM jj/L 3/NSM 1c/L g/ON 2o/L 1/ON ii/L 5/ON 36/L 3/NSM t/L 2/NSM u/L e/NSM
  i/L e/NSM 1j/L 7/NSM 8/L 1/NSM 2/L b/NSM 7/L 1/ET 1/L 3/NSM g/L w/ON 39/L 2/NSM y/L 1/NSM
  3a/L 3/NSM 4/L 2/NSM 9/L 1/NSM 6/L 7/NSM 6/ON 48/L y/ON n/L 2/NSM 2/L 3/NSM 1k/L 1/NSM 1/L
  9/NSM 1/L 1/NSM 2/L 8/NSM 6/L d/NSM 1c/L v/NSM 1d/L 4/NSM 1c/L 1/NSM 1/L 5/NSM 1/L 1/NSM 5/L
  1/NSM 14/L 9/NSM c/L 2/NSM w/L 4/NSM 2/L 2/NSM 1/L 3/NSM 1k/L 1/NSM 1/L 2/NSM 3/L 1/NSM 1/L
  3/NSM 1m/L 8/NSM 2/L 5/NSM 45/L 3/NSM 1/L d/NSM 1/L 7/NSM 4/L 1/NSM 6/L 1/NSM 3/L 2/NSM 5i/L
  1t/NSM ej/L 4/BN w/ON 5/ET f/ON 1/CS 2j/ON 1c/ET 1g/NSM 16/ON c/ET k/ON 1o/L 3s/ON 1/ES 1/ET
  82/ON 1x/L q/ON 1/L 41/ON p/L h8/ON 1/L 9f/ON 74/L ie/ON 1/L 49/ON 51/L 7/ON 3/L 4/NSM 6/L
  7/ON 3j/L 1/NSM 2o/L w/NSM ed/ON 3/L p/ON 9/L 4/NSM 2/L 1/ON 6/L 4/ON 2/L 4/ON 2g/L 4/NSM
  3/L 1/ON 2i/L 1/ON 5g/L 10/ON 5i4/L 1s/ON h3k/L 1s/ON 8t/L 3/ON 2n/L 4/NSM 1/ON a/NSM 3/ON
  t/L 2/NSM 28/L 2/NSM e/L z/ON 2t/L 1/ON 3d/L 1/NSM 3/L 1/NSM 4/L 1/NSM p/L 2/NSM 1/L 4/ON
  4/NSM 8/L 8/ET 1g/L c/ON 1w/L a/NSM i/L i/NSM d/L 1/NSM 12/L 8/NSM p/L b/NSM 1a/L 3/NSM 1c/L
  1/NSM 2/L 4/NSM 2/L 2/NSM 13/L 1/NSM 1v/L 6/NSM 2/L 2/NSM 2/L b/NSM 3/L 1/NSM 8/L 1/NSM 1b/L
  1/NSM 1f/L 1/NSM 1/L 3/NSM 2/L 2/NSM 5/L 2/NSM 1/L 1/NSM 16/L 2/NSM 8/L b/NSM 2x/L 2e/ON
  11/L 1/NSM 2/L 1/NSM 4/L 3/NSM fn2/L 44/NSM b0/AL 2a/ON 1r/AL 29/ON 11/NSM 1a/ON b1/AL 75/L
  1/ON 1q/L 25/ON 3/L 1s/ON 19/L 3n/NSM 2o/L 1/NSM v/EN 3a/L a/NSM w0/L 7z/R 1/ON 69/R f/NSM
  14/R 8/NSM 4l/R 6/NSM 26/R 7/ON cg/R 10/AL c/NSM g/AN 80/R w/AN 17/R 2/NSM l/R 1n/AL 3/NSM
  1c/R m/AL b/NSM v/AL i/R 4/NSM 3e/R 1/L 1/NSM 1i/L f/NSM b/L k/ON a/L 1/NSM 2/L 2/NSM a/L
  3/NSM 1d/L 4/NSM 2/L 2/NSM 7/L e/NSM 1c/L 3/NSM 10/L 5/NSM 1/L 9/NSM 1p/L 1/NSM c/L 2/NSM
  1g/L 9/NSM a/L 4/NSM 2/L 1/NSM 2n/L 3/NSM 2/L 1/NSM 1/L 2/NSM 6/L 1/NSM 2/L 1r/NSM 2n/L
  1/NSM 3/L d/NSM g/L 2/NSM 1l/L 2/NSM 3/L 1/NSM 11/L q/NSM 54/L 8/NSM 2/L 3/NSM 1/L 1/NSM n/L
  1/NSM 2c/L 6/NSM 1/L 1/NSM 4/L 2/NSM 1/L 2/NSM 6m/L 6/NSM 4/L 2/NSM 1/L 2/NSM r/L 10/NSM
  1f/L 8/NSM 2/L 1/NSM 1/L 2/NSM v/L w/ON 17/L 1/NSM 1/L 1/NSM 2/L 6/NSM 1/L 1/NSM 2t/L 3/NSM
  2/L 4/NSM 1/L 9/NSM 73/L 9/NSM 1/L 2/NSM 74/L 2/NSM 1/L 1/NSM 4/L 1/NSM 40/L 8/NSM 4/L 1/NSM
  w/L 6/NSM 2/L 2/NSM 14/L 6/NSM 2/L 4/NSM 8/L 9/NSM 1/L 6/NSM 2/L 3/NSM 1a/L d/NSM 1/L 2/NSM
  ba/L e/NSM 2c/L n/NSM 1/L 7/NSM 1/L 2/NSM 1/L 23/NSM 1d/L l/NSM 1/L 9/NSM 1s/L 3/NSM 2/L
  1/NSM 1/L 1/NSM 9n/L 2/NSM b/L 2/NSM 1g/L 8/NSM 2/L 1/NSM 1/L 1/NSM 42/L 8/ON 4/ET u/ON
  401/L 1/NSM 6/L p/NSM as0/L 5/NSM 1n/L 7/NSM t4/L 1/NSM 1r/L 4/NSM 27/L 1/ON 1/L c/NSM f59/L
  2/NSM 3mp/L 28/NSM ev/L 3/NSM h/L 8/NSM 2/L 7/NSM u/L 4/NSM 1n/L 2h/ON 3/NSM 3f/ON 1s/L
  2o/ON 1b4/L 1j/NSM 4/L 1e/NSM 8/L 1/NSM e/L 1/NSM m/L v9/NSM 74/L 74/NSM 1c/L 7/NSM af/L
  i/NSM 18/L 4/NSM f/L cx/ET s/L 4/NSM ls/L 5s/R 2a/NSM y/R 7/NSM me/R hr/AL gw/ON t/L 3/ON
  1p/L 1l/ON 3e/L vs/ON 4/L 4b/ON 4/L 8n/ON 26/L 9g/ON c/L 15/ON 7/L 1a/ON 1/L 7/ON 8/L e/ON
  4/L 9/ON 7/L 63/ON l3cl/L"

/-- Runs of marks and of other characters. -/
def markText : String := "
  lc/O 35/M 7m/O 8/M 7a/O 19/M 1/O 1/M 1/O 2/M 1/O 2/M 1/O 9/M 1s/O b/M 1c/O l/M g/O 1/M 2t/O
  8/M 1/O 6/M 2/O 2/M 1/O 4/M z/O 1/M u/O t/M 2h/O b/M 1m/O 9/M 9/O 1/M o/O 4/M 1/O 9/M 1/O
  3/M 1/O 7/M 15/O 5/M 1m/O 8/M 16/O 1m/M 1i/O 3/M 1/O i/M 1/O f/M 2/O 2/M t/O 4/M 1j/O 1/M
  1/O g/M 9/O 9/M 2/O 4/M o/O 7/M 1j/O w/M k/O 2/M 3/O 1/M b/O 4/M 1j/O 1/M 1/O i/M i/O 4/M
  k/O b/M 1j/O 1/M 1/O x/M 3/O 4/M s/O 1/M 1n/O i/M 7/O f/M q/O 5/M 1j/O 1/M 1/O q/M a/O 4/M
  r/O 3/M 1k/O 1/M 1/O u/M 6/O 4/M d/O h/M 1j/O 2/M 1/O g/M 9/O 1/M a/O 4/M r/O 4/M 1x/O s/M
  c/O 2/M 1p/O 1/M 2/O b/M 8/O 8/M 2q/O 1/M 2/O 9/M b/O 8/M 20/O 2/M r/O 1/M 1/O 1/M 1/O 1/M
  4/O 2/M 1d/O k/M 1/O 2/M 5/O 1d/M 8/O 1/M 2s/O k/M n/O 4/M 4/O 3/M 1/O 3/M 2/O 7/M 3/O 4/M
  d/O c/M 1/O 1/M a/O 4/M jj/O 3/M qa/O d/M j/O 3/M t/O e/M i/O e/M 1i/O u/M 9/O 3/M 4l/O 2/M
  y/O 1/M 3a/O w/M 5z/O 7/M 1j/O 17/M 1c/O v/M 1d/O 5/M 1b/O h/M 12/O 9/M c/O 3/M u/O d/M 1k/O
  m/M 14/O n/M 45/O 3/M 1/O l/M 4/O 1/M 6/O 1/M 2/O 3/M 5i/O 1t/M jz/O 1g/M 2cr/O 4/M 3w/O 1/M
  2o/O w/M fe/O 6/M 2x/O 4/M n9u/O 4/M 1/O a/M w/O 2/M 28/O 2/M 7k/O 1/M 3/O 1/M 4/O 1/M n/O
  5/M 4/O 4/M 28/O 2/M 1e/O q/M i/O i/M d/O 1/M 12/O 8/M p/O o/M x/O 4/M 1b/O e/M 10/O 1/M
  1v/O n/M 3/O 1/M 8/O 4/M 17/O 3/M 1e/O 1/M 1/O 3/M 2/O 2/M 5/O 2/M 1/O 1/M 15/O 5/M 5/O c/M
  6a/O 8/M 1/O 4/M fn2/O 44/M ha/O 11/M qg/O 3n/M 2o/O 1/M 45/O a/M 1a9/O f/M 14/O 8/M 4l/O
  6/M ft/O c/M aj/O 2/M 28/O 3/M 1y/O b/M 1d/O 4/M 3e/O 3/M 1h/O f/M 15/O 1/M 2/O 2/M a/O 4/M
  19/O b/M 7/O e/M 1c/O 3/M 10/O f/M f/O 2/M 18/O 1/M c/O 3/M 1c/O e/M 8/O 4/M 1/O 2/M 2k/O
  c/M 6/O 1/M 2/O 1r/M 2n/O h/M g/O 5/M 1i/O 2/M 1/O i/M 7/O 6/M 5/O u/M 51/O i/M n/O 1/M 29/O
  k/M 6j/O i/M r/O 10/M 1c/O h/M 2y/O d/M 2t/O j/M 70/O f/M 6t/O f/M 1/O 1/M 1/O 2/M 3x/O g/M
  3/O s/M 1/O a/M 14/O 7/M 1/O 4/M 8/O 9/M 1/O b/M 1a/O g/M b9/O h/M 2a/O 32/M 1d/O l/M 1/O
  9/M 1m/O e/M 9n/O 4/M 9/O 2/M 1/O 1/M 1c/O f/M 459/O 1/M 6/O p/M as0/O 5/M 1n/O 7/M t4/O 1/M
  1/O 1u/M 29/O e/M f57/O 2/M 3mp/O 28/M et/O 5/M 3/O m/M 2/O 7/M u/O 4/M 44/O 3/M 1iz/O 1j/M
  4/O 1e/M 8/O 1/M e/O 1/M m/O v9/M 74/O 74/M 1c/O 7/M af/O i/M 18/O 4/M e4/O 4/M rk/O 2a/M
  y/O 7/M l705/O"

/-- Runs of characters with one type of joining. -/
def joiningText : String := "
  lc/U 35/T 7m/U 8/T 7a/U 19/T 1/U 1/T 1/U 2/T 1/U 2/T 1/U 9/T 1s/U b/T 5/U 1/D 1/U 4/R 1/D
  1/R 1/D 1/R 5/D 4/R d/D 1/C 7/D 1/R 2/D l/T e/U 2/D 1/T 3/R 5/U f/D i/R 12/D 1/R 2/D 9/R 1/D
  1/R 1/D 1/R 2/D 2/R 1/U 1/R 8/T 1/U 6/T 2/U 2/T 1/U 4/T 2/R a/U 3/D 2/U 1/D g/U 1/R 1/T 3/D
  5/R 4/D 1/R 9/D 1/R 1/D 1/R 1/D 1/R 2/D 1/R t/T 1/R b/D 3/R f/D 2/R 4/D 1/R 1/D 2/R 3/D 2/R
  6/D 12/U b/T p/U x/D 9/T 6/U 3/C 1/T o/U 4/T 1/U 9/T 1/U 3/T 1/U 7/T g/U 1/R 5/D 2/R 1/D 1/R
  a/D 1/R 1/D 3/R 5/T 2/U 1/D 1/U 4/D 1/U 1/R 1/D q/R 3/C 1/D 2/U 5/D 1/R 8/D 9/T a/D 3/R 1/U
  1/R 2/D 2/R 6/D 1/R f/D 1/U 1l/T 1j/U 1/T 1/U 1/T 4/U 8/T 4/U 1/T 3/U f/T 2/U 2/T t/U 1/T
  1m/U 1/T 4/U 6/T 6/U 1/T k/U 4/T o/U 5/T 1l/U 2/T 3/U r/T k/U 2/T 3/U 1/T b/U 2/T 1l/U 1/T
  4/U 8/T 4/U 3/T i/U 4/T k/U 8/T 1m/U 1/T 2/U 1/T 1/U 6/T 6/U a/T b/U 4/T s/U 1/T 1p/U 1/T
  c/U 3/T 1c/U 1/T 3/U 1/T 1j/U 1/T 1/U 3/T 5/U i/T a/U 4/T r/U 1/T 1m/U 1/T 2/U 1/T 6/U 1/T
  5/U 9/T d/U 4/T q/U 2/T 1l/U 2/T 4/U 5/T 7/U 1/T k/U 4/T r/U 1/T 20/U 5/T 3/U 6/T 2h/U 1/T
  2/U b/T 8/U 8/T 2q/U 1/T 2/U 9/T b/U 8/T 20/U 2/T r/U 1/T 1/U 1/T 1/U 1/T 1j/U e/T 1/U 5/T
  1/U 2/T 5/U 1d/T 8/U 1/T 2u/U 4/T 1/U 6/T 1/U 2/T 2/U 2/T p/U 2/T 4/U 3/T g/U 4/T d/U 1/T
  2/U 2/T 6/U 1/T f/U 1/T jj/U 3/T qa/U 3/T t/U 2/T u/U e/T i/U e/T 1j/U 7/T 8/U 1/T 2/U b/T
  9/U 3/T 13/U 1/D 2/U 6/C g/U 2o/D 5/U 2/T y/D 1/T 6/D 34/U 3/T 4/U 2/T 9/U 1/T 6/U 7/T 5z/U
  2/T 2/U 3/T 1k/U 1/T 1/U 9/T 1/U 1/T 2/U 8/T 6/U d/T 1c/U 2c/T 1c/U 1/T 1/U 5/T 1/U 1/T 5/U
  1/T 14/U 9/T c/U 2/T w/U 4/T 2/U 2/T 1/U 3/T 1k/U 1/T 1/U 2/T 3/U 1/T 1/U 3/T 1m/U 8/T 2/U
  5/T 45/U 3/T 1/U d/T 1/U 7/T 4/U 1/T 6/U 1/T 3/U 2/T 5i/U 1t/T ek/U 3/C 5c/U 1g/T 2cr/U 4/T
  3w/U 1/T 2o/U w/T fe/U 4/T 2z/U 4/T n9u/U 4/T 1/U a/T w/U 2/T 28/U 2/T 7k/U 1/T 3/U 1/T 4/U
  1/T p/U 2/T 5/U 4/T g/U 1e/D 1/L 29/U a/T i/U i/T d/U 1/T 12/U 8/T p/U b/T 1a/U 3/T 1c/U 1/T
  2/U 4/T 2/U 2/T 13/U 1/T 1v/U 6/T 2/U 2/T 2/U b/T 3/U 1/T 8/U 1/T 1b/U 1/T 1f/U 1/T 1/U 3/T
  2/U 2/T 5/U 2/T 1/U 1/T 16/U 2/T 8/U b/T 6c/U 1/T 2/U 1/T 4/U 3/T fn2/U 44/T ha/U 11/T qg/U
  3n/T 2o/U 1/T 45/U a/T 1a9/U f/T 14/U 8/T 3k/U 5/D 1/R 1/U 1/R 1/U 2/R 2/U 1/L 5/R 4/D 1/L
  5/D 1/R 3/D 1/R 2/U 1/R 6/T 4/D 1/R 40/U 1/D 1/R 1/D 3/R 3/D 1/R 2/D 1/R 1/D 2/R 1/D 8/R g/U
  4/R 2/D 9d/U 1/L x/D 1/R 1/D c/T 1l/U 5/T 8t/U 2/T l/U 1/R 2/D 1/U a/D 16/U 6/T 1c/U 3/D 1/R
  h/D 1/U b/T 3/D 1/R r/U 4/D 2/R c/D 4/T 16/U 1/D 1/U 2/D 3/R 1/U 1/D 2/R 2/D 1/R 2/D 1/U 1/D
  2/R 1/D 4/U 1/R 1/D l/L x/U 1/T 1i/U f/T 15/U 1/T 2/U 2/T a/U 3/T 1d/U 4/T 2/U 2/T 7/U e/T
  1c/U 3/T 10/U 5/T 1/U 9/T 1p/U 1/T c/U 2/T 1g/U 9/T a/U 4/T 2/U 1/T 2n/U 3/T 2/U 1/T 1/U 2/T
  6/U 1/T 2/U 1r/T 2n/U 1/T 3/U d/T g/U 2/T 1l/U 2/T 3/U 1/T 11/U q/T 1n/U 7/T c/U 1/T 1/U 1/T
  1/U 1/T e/U v/T 1k/U 8/T 2/U 3/T 1/U 1/T n/U 1/T 2c/U 6/T 1/U 1/T 4/U 2/T 1/U 2/T 6m/U 6/T
  4/U 2/T 1/U 2/T r/U 10/T 1f/U 8/T 2/U 1/T 1/U 2/T 2y/U 1/T 1/U 1/T 2/U 6/T 1/U 1/T 2t/U 1/T
  1/U 1/T 2/U 4/T 1/U 9/T 73/U 9/T 1/U 2/T 74/U 2/T 1/U 1/T 4/U 1/T 40/U 8/T 4/U 1/T w/U a/T
  14/U 6/T 2/U 4/T 8/U 9/T 1/U 6/T 2/U 3/T 1a/U d/T 1/U 2/T 5i/U 1/T 1/U 3/T 1/U 1/T 5l/U e/T
  1/U 1/T 2a/U n/T 1/U 7/T 1/U 2/T 1/U 23/T 1d/U l/T 1/U 9/T 1s/U 3/T 2/U 1/T 1/U 1/T 9n/U 2/T
  b/U 2/T 1g/U 8/T 2/U 1/T 1/U 1/T n/U 2e/T 428/U 1/T 6/U p/T 8u6/U c/T 3/U 3/T 1xc/U 5/T 1n/U
  7/T t4/U 1/T 1r/U 4/T 29/U c/T f59/U 2/T 3mp/U 28/T ev/U 3/T h/U 8/T 2/U 7/T u/U 4/T 44/U
  3/T 1iz/U 1j/T 4/U 1e/T 8/U 1/T e/U 1/T m/U v9/T 74/U 74/T 1c/U 7/T af/U i/T 18/U 4/T e4/U
  4/T 72/U 2/T 6r/U 1/T 2/U 1/T 7/U 2/T 5/U 9/T cy/U 2a/T y/D c/T l700/U"

end Rescan.Unicode
