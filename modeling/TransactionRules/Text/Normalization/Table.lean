/-!
# Data of compatibility normalization

Hexadecimal numbers. Runs are written as a gap, a length and a value: the value belongs to the first
character of the run, and the following ones have the following values (`decompositionRuns`) or the
same value (`combiningClasses`). Long decompositions are a gap, a length and that many characters;
compositions are triples of two characters and the character they become.
-/

namespace TransactionRules.Normalization

/-- Characters whose compatibility decomposition is one character. -/
def decompositionRuns : String :=
  String.intercalate " "
  ["a0 1 20 9 1 61 7 2 32 1 1 3bc 3 1 31 0 1 6f c4 1 73 130 1 68 0 1 266 0 1 6a 0 1 72 0 1 279 0 1",
   "27b 0 1 281 0 1 77 0 1 79 27 1 263 0 1 6c 0 1 73 0 1 78 0 1 295 5b 2 300 1 1 313 30 1 2b9 9 1",
   "3b 8 1 b7 48 1 3b2 0 1 3b8 0 1 3a5 2 1 3c6 0 1 3c0 19 1 3ba 0 2 3c1 1 1 398 0 1 3b5 3 1 3a3",
   "b12 1 f0b 1ef 1 10dc c2f 1 41 0 1 c6 0 1 42 1 2 44 0 1 18e 0 8 47 1 1 4f 0 1 222 0 1 50 0 1 52",
   "0 2 54 0 1 57 0 1 61 0 2 250 0 1 1d02 0 1 62 0 2 64 0 1 259 0 2 25b 0 1 67 1 1 6b 0 1 6d 0 1",
   "14b 0 1 6f 0 1 254 0 2 1d16 0 1 70 0 2 74 0 1 1d1d 0 1 26f 0 1 76 0 1 1d25 0 3 3b2 0 2 3c6 0 1",
   "69 0 1 72 0 2 75 0 2 3b2 0 1 3c1 0 2 3c6 d 1 43d 22 1 252 0 1 63 0 1 255 0 1 f0 0 1 25c 0 1 66",
   "0 1 25f 0 1 261 0 1 265 0 3 268 0 1 1d7b 0 1 29d 0 1 26d 0 1 1d85 0 1 29f 0 1 271 0 1 270 0 4",
   "272 0 1 278 0 2 282 0 1 1ab 0 2 289 0 1 1d1c 0 2 28b 0 1 7a 0 3 290 0 1 3b8 1fe 1 3b9 30 1 60",
   "10 1 20 0 1 20 0 1 20 0 1 20 0 1 20 0 1 20 0 1 20 0 1 20 0 1 20 0 1 20 0 1 20 6 1 2010 12 1 2e",
   "a 1 20 2f 1 20 10 1 30 0 1 69 2 6 34 0 1 2b 0 1 2212 0 1 3d 0 2 28 0 1 6e 0 a 30 0 1 2b 0 1",
   "2212 0 1 3d 0 2 28 1 1 61 0 1 65 0 1 6f 0 1 78 0 1 259 0 1 68 0 4 6b 0 1 70 0 2 73 65 1 43 4 1",
   "190 2 1 67 0 1 48 0 1 48 0 1 48 0 1 68 0 1 127 0 1 49 0 1 49 0 1 4c 0 1 6c 1 1 4e 3 3 50 0 1",
   "52 0 1 52 6 1 5a 1 1 3a9 1 1 5a 1 1 4b 1 2 42 1 1 65 0 2 45 1 1 4d 0 1 6f 0 4 5d0 0 1 69 2 1",
   "3c0 0 1 3b3 0 1 393 0 1 3a0 0 1 2211 4 1 44 0 2 64 0 2 69 16 1 49 3 1 56 4 1 58 2 1 4c 0 2 43",
   "0 1 4d 0 1 69 3 1 76 4 1 78 2 1 6c 0 2 63 0 1 6d 1a9 2 3008 135 9 31 4d 1a 41 0 1a 61 0 1 30",
   "791 1 6a 0 1 56 f1 1 2d61 12f 1 6bcd 53 1 9f9f c 1 4e00 0 1 4e28 0 1 4e36 0 1 4e3f 0 1 4e59 0",
   "1 4e85 0 1 4e8c 0 1 4ea0 0 1 4eba 0 1 513f 0 1 5165 0 1 516b 0 1 5182 0 1 5196 0 1 51ab 0 1",
   "51e0 0 1 51f5 0 1 5200 0 1 529b 0 1 52f9 0 1 5315 0 1 531a 0 1 5338 0 1 5341 0 1 535c 0 1 5369",
   "0 1 5382 0 1 53b6 0 1 53c8 0 1 53e3 0 1 56d7 0 1 571f 0 1 58eb 0 1 5902 0 1 590a 0 1 5915 0 1",
   "5927 0 1 5973 0 1 5b50 0 1 5b80 0 1 5bf8 0 1 5c0f 0 1 5c22 0 1 5c38 0 1 5c6e 0 1 5c71 0 1 5ddb",
   "0 1 5de5 0 1 5df1 0 1 5dfe 0 1 5e72 0 1 5e7a 0 1 5e7f 0 1 5ef4 0 1 5efe 0 1 5f0b 0 1 5f13 0 1",
   "5f50 0 1 5f61 0 1 5f73 0 1 5fc3 0 1 6208 0 1 6236 0 1 624b 0 1 652f 0 1 6534 0 1 6587 0 1 6597",
   "0 1 65a4 0 1 65b9 0 1 65e0 0 1 65e5 0 1 66f0 0 1 6708 0 1 6728 0 1 6b20 0 1 6b62 0 1 6b79 0 1",
   "6bb3 0 1 6bcb 0 1 6bd4 0 1 6bdb 0 1 6c0f 0 1 6c14 0 1 6c34 0 1 706b 0 1 722a 0 1 7236 0 1 723b",
   "0 1 723f 0 1 7247 0 1 7259 0 1 725b 0 1 72ac 0 1 7384 0 1 7389 0 1 74dc 0 1 74e6 0 1 7518 0 1",
   "751f 0 1 7528 0 1 7530 0 1 758b 0 1 7592 0 1 7676 0 1 767d 0 1 76ae 0 1 76bf 0 1 76ee 0 1 77db",
   "0 1 77e2 0 1 77f3 0 1 793a 0 1 79b8 0 1 79be 0 1 7a74 0 1 7acb 0 1 7af9 0 1 7c73 0 1 7cf8 0 1",
   "7f36 0 1 7f51 0 1 7f8a 0 1 7fbd 0 1 8001 0 1 800c 0 1 8012 0 1 8033 0 1 807f 0 1 8089 0 1 81e3",
   "0 1 81ea 0 1 81f3 0 1 81fc 0 1 820c 0 1 821b 0 1 821f 0 1 826e 0 1 8272 0 1 8278 0 1 864d 0 1",
   "866b 0 1 8840 0 1 884c 0 1 8863 0 1 897e 0 1 898b 0 1 89d2 0 1 8a00 0 1 8c37 0 1 8c46 0 1 8c55",
   "0 1 8c78 0 1 8c9d 0 1 8d64 0 1 8d70 0 1 8db3 0 1 8eab 0 1 8eca 0 1 8f9b 0 1 8fb0 0 1 8fb5 0 1",
   "9091 0 1 9149 0 1 91c6 0 1 91cc 0 1 91d1 0 1 9577 0 1 9580 0 1 961c 0 1 96b6 0 1 96b9 0 1 96e8",
   "0 1 9751 0 1 975e 0 1 9762 0 1 9769 0 1 97cb 0 1 97ed 0 1 97f3 0 1 9801 0 1 98a8 0 1 98db 0 1",
   "98df 0 1 9996 0 1 9999 0 1 99ac 0 1 9aa8 0 1 9ad8 0 1 9adf 0 1 9b25 0 1 9b2f 0 1 9b32 0 1 9b3c",
   "0 1 9b5a 0 1 9ce5 0 1 9e75 0 1 9e7f 0 1 9ea5 0 1 9ebb 0 1 9ec3 0 1 9ecd 0 1 9ed1 0 1 9ef9 0 1",
   "9efd 0 1 9f0e 0 1 9f13 0 1 9f20 0 1 9f3b 0 1 9f4a 0 1 9f52 0 1 9f8d 0 1 9f9c 0 1 9fa0 2a 1 20",
   "35 1 3012 1 1 5341 0 2 5344 f6 2 1100 0 1 11aa 0 1 1102 0 2 11ac 0 3 1103 0 6 11b0 0 1 111a 0",
   "3 1106 0 1 1121 0 a 1109 0 15 1161 0 1 1160 0 2 1114 0 2 11c7 0 1 11cc 0 1 11ce 0 1 11d3 0 1",
   "11d7 0 1 11d9 0 1 111c 0 1 11dd 0 1 11df 0 2 111d 0 1 1120 0 2 1122 0 1 1127 0 1 1129 0 5 112b",
   "0 1 1132 0 1 1136 0 1 1140 0 1 1147 0 1 114c 0 2 11f1 0 3 1157 0 2 1184 0 1 1188 0 2 1191 0 1",
   "1194 0 1 119e 0 1 11a1 3 1 4e00 0 1 4e8c 0 1 4e09 0 1 56db 0 1 4e0a 0 1 4e2d 0 1 4e0b 0 1 7532",
   "0 1 4e59 0 1 4e19 0 1 4e01 0 1 5929 0 1 5730 0 1 4eba a4 1 554f 0 1 5e7c 0 1 6587 0 1 7b8f 18",
   "1 1100 0 2 1102 0 3 1105 0 1 1109 0 2 110b 0 5 110e 12 1 4e00 0 1 4e8c 0 1 4e09 0 1 56db 0 1",
   "4e94 0 1 516d 0 1 4e03 0 1 516b 0 1 4e5d 0 1 5341 0 1 6708 0 1 706b 0 1 6c34 0 1 6728 0 1 91d1",
   "0 1 571f 0 1 65e5 0 1 682a 0 1 6709 0 1 793e 0 1 540d 0 1 7279 0 1 8ca1 0 1 795d 0 1 52b4 0 1",
   "79d8 0 1 7537 0 1 5973 0 1 9069 0 1 512a 0 1 5370 0 1 6ce8 0 1 9805 0 1 4f11 0 1 5199 0 1 6b63",
   "0 1 4e0a 0 1 4e2d 0 1 4e0b 0 1 5de6 0 1 53f3 0 1 533b 0 1 5b97 0 1 5b66 0 1 76e3 0 1 4f01 0 1",
   "8cc7 0 1 5354 0 1 591c 1f 1 30a2 0 1 30a4 0 1 30a6 0 1 30a8 0 2 30aa 0 1 30ad 0 1 30af 0 1",
   "30b1 0 1 30b3 0 1 30b5 0 1 30b7 0 1 30b9 0 1 30bb 0 1 30bd 0 1 30bf 0 1 30c1 0 1 30c4 0 1 30c6",
   "0 1 30c8 0 6 30ca 0 1 30d2 0 1 30d5 0 1 30d8 0 1 30db 0 5 30de 0 1 30e4 0 1 30e6 0 6 30e8 0 4",
   "30ef 739d 1 44a 0 1 44c d2 1 a76f 81 1 43 0 1 46 0 1 51 3 1 126 0 1 153 362 1 a727 0 1 ab37 0",
   "1 26b 0 1 ab52 9 1 28d 4d96 1 8c48 0 1 66f4 0 1 8eca 0 1 8cc8 0 1 6ed1 0 1 4e32 0 1 53e5 0 1",
   "9f9c 0 1 9f9c 0 1 5951 0 1 91d1 0 1 5587 0 1 5948 0 1 61f6 0 1 7669 0 1 7f85 0 1 863f 0 1 87ba",
   "0 1 88f8 0 1 908f 0 1 6a02 0 1 6d1b 0 1 70d9 0 1 73de 0 1 843d 0 1 916a 0 1 99f1 0 1 4e82 0 1",
   "5375 0 1 6b04 0 1 721b 0 1 862d 0 1 9e1e 0 1 5d50 0 1 6feb 0 1 85cd 0 1 8964 0 1 62c9 0 1 81d8",
   "0 1 881f 0 1 5eca 0 1 6717 0 1 6d6a 0 1 72fc 0 1 90ce 0 1 4f86 0 1 51b7 0 1 52de 0 1 64c4 0 1",
   "6ad3 0 1 7210 0 1 76e7 0 1 8001 0 1 8606 0 1 865c 0 1 8def 0 1 9732 0 1 9b6f 0 1 9dfa 0 1 788c",
   "0 1 797f 0 1 7da0 0 1 83c9 0 1 9304 0 1 9e7f 0 1 8ad6 0 1 58df 0 1 5f04 0 1 7c60 0 1 807e 0 1",
   "7262 0 1 78ca 0 1 8cc2 0 1 96f7 0 1 58d8 0 1 5c62 0 1 6a13 0 1 6dda 0 1 6f0f 0 1 7d2f 0 1 7e37",
   "0 1 964b 0 1 52d2 0 1 808b 0 1 51dc 0 1 51cc 0 1 7a1c 0 1 7dbe 0 1 83f1 0 1 9675 0 1 8b80 0 1",
   "62cf 0 1 6a02 0 1 8afe 0 1 4e39 0 1 5be7 0 1 6012 0 1 7387 0 1 7570 0 1 5317 0 1 78fb 0 1 4fbf",
   "0 1 5fa9 0 1 4e0d 0 1 6ccc 0 1 6578 0 1 7d22 0 1 53c3 0 1 585e 0 1 7701 0 1 8449 0 1 8aaa 0 1",
   "6bba 0 1 8fb0 0 1 6c88 0 1 62fe 0 1 82e5 0 1 63a0 0 1 7565 0 1 4eae 0 1 5169 0 1 51c9 0 1 6881",
   "0 1 7ce7 0 1 826f 0 1 8ad2 0 1 91cf 0 1 52f5 0 1 5442 0 1 5973 0 1 5eec 0 1 65c5 0 1 6ffe 0 1",
   "792a 0 1 95ad 0 1 9a6a 0 1 9e97 0 1 9ece 0 1 529b 0 1 66c6 0 1 6b77 0 1 8f62 0 1 5e74 0 1 6190",
   "0 1 6200 0 1 649a 0 1 6f23 0 1 7149 0 1 7489 0 1 79ca 0 1 7df4 0 1 806f 0 1 8f26 0 1 84ee 0 1",
   "9023 0 1 934a 0 1 5217 0 1 52a3 0 1 54bd 0 1 70c8 0 1 88c2 0 1 8aaa 0 1 5ec9 0 1 5ff5 0 1 637b",
   "0 1 6bae 0 1 7c3e 0 1 7375 0 1 4ee4 0 1 56f9 0 1 5be7 0 1 5dba 0 1 601c 0 1 73b2 0 1 7469 0 1",
   "7f9a 0 1 8046 0 1 9234 0 1 96f6 0 1 9748 0 1 9818 0 1 4f8b 0 1 79ae 0 1 91b4 0 1 96b8 0 1 60e1",
   "0 1 4e86 0 1 50da 0 1 5bee 0 1 5c3f 0 1 6599 0 1 6a02 0 1 71ce 0 1 7642 0 1 84fc 0 1 907c 0 1",
   "9f8d 0 1 6688 0 1 962e 0 1 5289 0 1 677b 0 1 67f3 0 1 6d41 0 1 6e9c 0 1 7409 0 1 7559 0 1 786b",
   "0 1 7d10 0 1 985e 0 1 516d 0 1 622e 0 1 9678 0 1 502b 0 1 5d19 0 1 6dea 0 1 8f2a 0 1 5f8b 0 1",
   "6144 0 1 6817 0 1 7387 0 1 9686 0 1 5229 0 1 540f 0 1 5c65 0 1 6613 0 1 674e 0 1 68a8 0 1 6ce5",
   "0 1 7406 0 1 75e2 0 1 7f79 0 1 88cf 0 1 88e1 0 1 91cc 0 1 96e2 0 1 533f 0 1 6eba 0 1 541d 0 1",
   "71d0 0 1 7498 0 1 85fa 0 1 96a3 0 1 9c57 0 1 9e9f 0 1 6797 0 1 6dcb 0 1 81e8 0 1 7acb 0 1 7b20",
   "0 1 7c92 0 1 72c0 0 1 7099 0 1 8b58 0 1 4ec0 0 1 8336 0 1 523a 0 1 5207 0 1 5ea6 0 1 62d3 0 1",
   "7cd6 0 1 5b85 0 1 6d1e 0 1 66b4 0 1 8f3b 0 1 884c 0 1 964d 0 1 898b 0 1 5ed3 0 1 5140 0 1 55c0",
   "2 1 585a 1 1 6674 2 1 51de 0 1 732a 0 1 76ca 0 1 793c 0 1 795e 0 1 7965 0 1 798f 0 1 9756 0 1",
   "7cbe 0 1 7fbd 1 1 8612 1 1 8af8 2 1 9038 0 1 90fd 3 1 98ef 0 1 98fc 0 1 9928 0 1 9db4 0 1 90de",
   "0 1 96b7 0 1 4fae 0 1 50e7 0 1 514d 0 1 52c9 0 1 52e4 0 1 5351 0 1 559d 0 1 5606 0 1 5668 0 1",
   "5840 0 1 58a8 0 1 5c64 0 1 5c6e 0 1 6094 0 1 6168 0 1 618e 0 1 61f2 0 1 654f 0 1 65e2 0 1 6691",
   "0 1 6885 0 1 6d77 0 1 6e1a 0 1 6f22 0 1 716e 0 1 722b 0 1 7422 0 1 7891 0 1 793e 0 1 7949 0 1",
   "7948 0 1 7950 0 1 7956 0 1 795d 0 2 798d 0 1 7a40 0 1 7a81 0 1 7bc0 0 1 7df4 0 1 7e09 0 1 7e41",
   "0 1 7f72 0 1 8005 0 1 81ed 0 1 8279 0 1 8279 0 1 8457 0 1 8910 0 1 8996 0 1 8b01 0 1 8b39 0 1",
   "8cd3 0 1 8d08 0 1 8fb6 0 1 9038 0 1 96e3 0 1 97ff 0 1 983b 0 1 6075 0 1 242ee 0 1 8218 2 1",
   "4e26 0 1 51b5 0 1 5168 0 1 4f80 0 1 5145 0 1 5180 0 1 52c7 0 1 52fa 0 1 559d 0 1 5555 0 1 5599",
   "0 1 55e2 0 1 585a 0 1 58b3 0 1 5944 0 1 5954 0 1 5a62 0 1 5b28 0 1 5ed2 0 1 5ed9 0 1 5f69 0 1",
   "5fad 0 1 60d8 0 1 614e 0 1 6108 0 1 618e 0 1 6160 0 1 61f2 0 1 6234 0 1 63c4 0 1 641c 0 1 6452",
   "0 1 6556 0 1 6674 0 1 6717 0 1 671b 0 1 6756 0 1 6b79 0 1 6bba 0 1 6d41 0 1 6edb 0 1 6ecb 0 1",
   "6f22 0 1 701e 0 1 716e 0 1 77a7 0 1 7235 0 1 72af 0 1 732a 0 1 7471 0 1 7506 0 1 753b 0 1 761d",
   "0 1 761f 0 1 76ca 0 1 76db 0 1 76f4 0 1 774a 0 1 7740 0 1 78cc 0 1 7ab1 0 1 7bc0 0 1 7c7b 0 1",
   "7d5b 0 1 7df4 0 1 7f3e 0 1 8005 0 1 8352 0 1 83ef 0 1 8779 0 1 8941 0 1 8986 0 1 8996 0 1 8abf",
   "0 1 8af8 0 1 8acb 0 1 8b01 0 1 8afe 0 1 8aed 0 1 8b39 0 1 8b8a 0 1 8d08 0 1 8f38 0 1 9072 0 1",
   "9199 0 1 9276 0 1 967c 0 1 96e3 0 1 9756 0 1 97db 0 1 97ff 0 1 980b 0 1 983b 0 1 9b12 0 1 9f9c",
   "0 1 2284a 0 1 22844 0 1 233d5 0 1 3b9d 0 1 4018 0 1 4039 0 1 25249 0 1 25cd0 0 1 27ed3 0 1",
   "9f43 0 1 9f8e 46 1 5e2 0 1 5d0 0 2 5d3 0 3 5db 0 1 5e8 0 1 5ea 0 1 2b 26 1 671 0 1 671 0 1 67b",
   "0 1 67b 0 1 67b 0 1 67b 0 1 67e 0 1 67e 0 1 67e 0 1 67e 0 1 680 0 1 680 0 1 680 0 1 680 0 1",
   "67a 0 1 67a 0 1 67a 0 1 67a 0 1 67f 0 1 67f 0 1 67f 0 1 67f 0 1 679 0 1 679 0 1 679 0 1 679 0",
   "1 6a4 0 1 6a4 0 1 6a4 0 1 6a4 0 1 6a6 0 1 6a6 0 1 6a6 0 1 6a6 0 1 684 0 1 684 0 1 684 0 1 684",
   "0 1 683 0 1 683 0 1 683 0 1 683 0 1 686 0 1 686 0 1 686 0 2 686 0 1 687 0 1 687 0 1 687 0 1",
   "68d 0 1 68d 0 1 68c 0 1 68c 0 1 68e 0 1 68e 0 1 688 0 1 688 0 1 698 0 1 698 0 1 691 0 1 691 0",
   "1 6a9 0 1 6a9 0 1 6a9 0 1 6a9 0 1 6af 0 1 6af 0 1 6af 0 1 6af 0 1 6b3 0 1 6b3 0 1 6b3 0 1 6b3",
   "0 1 6b1 0 1 6b1 0 1 6b1 0 1 6b1 0 1 6ba 0 2 6ba 0 1 6bb 0 1 6bb 0 1 6bb 2 1 6c1 0 1 6c1 0 1",
   "6c1 0 1 6c1 0 1 6be 0 1 6be 0 1 6be 0 1 6be 0 1 6d2 0 1 6d2 23 1 6ad 0 1 6ad 0 1 6ad 0 1 6ad 0",
   "1 6c7 0 1 6c7 0 1 6c6 0 1 6c6 0 1 6c8 0 1 6c8 1 1 6cb 0 1 6cb 0 1 6c5 0 1 6c5 0 1 6c9 0 1 6c9",
   "0 1 6d0 0 1 6d0 0 1 6d0 0 1 6d0 0 1 649 0 1 649 12 1 6cc 0 1 6cc 0 1 6cc 0 1 6cc 210 1 2c 0 2",
   "3001 0 2 3a 0 1 21 0 1 3f 0 2 3016 18 1 2014 0 1 2013 0 1 5f 0 1 5f 0 2 28 0 1 7b 0 1 7d 0 2",
   "3014 0 2 3010 0 2 300a 0 2 3008 0 4 300c 2 1 5b 0 1 5d 4 1 5f 0 1 5f 0 1 5f 0 1 2c 0 1 3001 0",
   "1 2e 1 1 3b 0 1 3a 0 1 3f 0 1 21 0 1 2014 0 2 28 0 1 7b 0 1 7d 0 2 3014 0 1 23 0 1 26 0 2 2a 0",
   "1 2d 0 1 3c 0 1 3e 0 1 3d 1 1 5c 0 2 24 0 1 40 14 1 621 c 1 627 0 2 627 0 1 628 0 1 628 0 2",
   "628 0 2 629 0 1 62a 0 1 62a 0 2 62a 0 1 62b 0 1 62b 0 2 62b 0 1 62c 0 1 62c 0 2 62c 0 1 62d 0",
   "1 62d 0 2 62d 0 1 62e 0 1 62e 0 2 62e 0 2 62f 0 2 630 0 2 631 0 2 632 0 1 633 0 1 633 0 2 633",
   "0 1 634 0 1 634 0 2 634 0 1 635 0 1 635 0 2 635 0 1 636 0 1 636 0 2 636 0 1 637 0 1 637 0 2",
   "637 0 1 638 0 1 638 0 2 638 0 1 639 0 1 639 0 2 639 0 1 63a 0 1 63a 0 1 63a 0 1 641 0 1 641 0",
   "1 641 0 2 641 0 1 642 0 1 642 0 2 642 0 1 643 0 1 643 0 2 643 0 1 644 0 1 644 0 2 644 0 1 645",
   "0 1 645 0 2 645 0 1 646 0 1 646 0 2 646 0 1 647 0 1 647 0 2 647 0 2 648 0 2 649 0 1 64a 0 1",
   "64a 0 1 64a c 5e 21 0 2 2985 0 1 3002 0 2 300c 0 1 3001 0 1 30fb 0 1 30f2 0 1 30a1 0 1 30a3 0",
   "1 30a5 0 1 30a7 0 1 30a9 0 1 30e3 0 1 30e5 0 1 30e7 0 1 30c3 0 1 30fc 0 1 30a2 0 1 30a4 0 1",
   "30a6 0 1 30a8 0 2 30aa 0 1 30ad 0 1 30af 0 1 30b1 0 1 30b3 0 1 30b5 0 1 30b7 0 1 30b9 0 1 30bb",
   "0 1 30bd 0 1 30bf 0 1 30c1 0 1 30c4 0 1 30c6 0 1 30c8 0 6 30ca 0 1 30d2 0 1 30d5 0 1 30d8 0 1",
   "30db 0 5 30de 0 1 30e4 0 1 30e6 0 6 30e8 0 1 30ef 0 1 30f3 0 2 3099 0 1 1160 0 2 1100 0 1 11aa",
   "0 1 1102 0 2 11ac 0 3 1103 0 6 11b0 0 1 111a 0 3 1106 0 1 1121 0 a 1109 3 6 1161 2 6 1167 2 6",
   "116d 2 3 1173 3 2 a2 0 1 ac 1 1 a6 0 1 a5 0 1 20a9 1 1 2502 0 4 2190 0 1 25a0 0 1 25cb 792 2",
   "2d0 0 1 e6 0 1 299 0 1 253 1 1 2a3 0 1 ab66 0 1 2a5 0 1 2a4 0 2 256 0 1 1d91 0 1 258 0 1 25e 0",
   "1 2a9 0 1 264 0 1 262 0 1 260 0 1 29b 0 1 127 0 1 29c 0 1 267 0 1 284 0 2 2aa 0 1 26c 0 1",
   "1df04 0 1 a78e 0 1 26e 0 1 1df05 0 1 28e 0 1 1df06 0 1 f8 0 2 276 0 1 71 0 1 27a 0 1 1df08 0 2",
   "27d 0 1 280 0 1 2a8 0 1 2a6 0 1 ab67 0 1 2a7 0 1 288 0 1 2c71 1 1 28f 0 2 2a1 0 1 298 0 3 1c0",
   "0 1 1df0a 0 1 1df1e cc45 1a 41 0 1a 61 0 1a 41 0 7 61 1 12 69 0 1a 41 0 1a 61 0 1 41 1 2 43 2",
   "1 47 2 2 4a 2 4 4e 1 8 53 0 4 61 1 1 66 1 7 68 1 b 70 0 1a 41 0 1a 61 0 2 41 1 4 44 2 8 4a 1 7",
   "53 1 1a 61 0 2 41 1 4 44 1 5 49 1 1 4f 3 7 53 1 1a 61 0 1a 41 0 1a 61 0 1a 41 0 1a 61 0 1a 41",
   "0 1a 61 0 1a 41 0 1a 61 0 1a 41 0 1a 61 0 1a 41 0 1a 61 0 1 131 0 1 237 2 11 391 0 1 398 0 7",
   "3a3 0 1 2207 0 19 3b1 0 1 2202 0 1 3b5 0 1 3b8 0 1 3ba 0 1 3c6 0 1 3c1 0 1 3c0 0 11 391 0 1",
   "398 0 7 3a3 0 1 2207 0 19 3b1 0 1 2202 0 1 3b5 0 1 3b8 0 1 3ba 0 1 3c6 0 1 3c1 0 1 3c0 0 11",
   "391 0 1 398 0 7 3a3 0 1 2207 0 19 3b1 0 1 2202 0 1 3b5 0 1 3b8 0 1 3ba 0 1 3c6 0 1 3c1 0 1 3c0",
   "0 11 391 0 1 398 0 7 3a3 0 1 2207 0 19 3b1 0 1 2202 0 1 3b5 0 1 3b8 0 1 3ba 0 1 3c6 0 1 3c1 0",
   "1 3c0 0 11 391 0 1 398 0 7 3a3 0 1 2207 0 19 3b1 0 1 2202 0 1 3b5 0 1 3b8 0 1 3ba 0 1 3c6 0 1",
   "3c1 0 1 3c0 0 2 3dc 2 a 30 0 a 30 0 a 30 0 a 30 0 a 30 1600 2 627 0 1 62c 0 1 62f 1 1 648 0 1",
   "632 0 1 62d 0 1 637 0 1 64a 0 4 643 0 1 633 0 1 639 0 1 641 0 1 635 0 1 642 0 1 631 0 1 634 0",
   "2 62a 0 1 62e 0 1 630 0 1 636 0 1 638 0 1 63a 0 1 66e 0 1 6ba 0 1 6a1 0 1 66f 1 1 628 0 1 62c",
   "1 1 647 2 1 62d 1 1 64a 0 4 643 0 1 633 0 1 639 0 1 641 0 1 635 0 1 642 1 1 634 0 2 62a 0 1",
   "62e 1 1 636 1 1 63a 6 1 62c 4 1 62d 1 1 64a 1 1 644 1 1 646 0 1 633 0 1 639 1 1 635 0 1 642 1",
   "1 634 2 1 62e 1 1 636 1 1 63a 1 1 6ba 1 1 66f 1 1 628 0 1 62c 1 1 647 2 1 62d 0 1 637 0 1 64a",
   "0 1 643 1 2 645 0 1 633 0 1 639 0 1 641 0 1 635 0 1 642 1 1 634 0 2 62a 0 1 62e 1 1 636 0 1",
   "638 0 1 63a 0 1 66e 1 1 6a1 1 2 627 0 1 62c 0 1 62f 0 2 647 0 1 632 0 1 62d 0 1 637 0 1 64a 1",
   "3 644 0 1 633 0 1 639 0 1 641 0 1 635 0 1 642 0 1 631 0 1 634 0 2 62a 0 1 62e 0 1 630 0 1 636",
   "0 1 638 0 1 63a 5 1 628 0 1 62c 0 1 62f 1 1 648 0 1 632 0 1 62d 0 1 637 0 1 64a 1 3 644 0 1",
   "633 0 1 639 0 1 641 0 1 635 0 1 642 0 1 631 0 1 634 0 2 62a 0 1 62e 0 1 630 0 1 636 0 1 638 0",
   "1 63a 26f 1 43 0 1 52 3 1a 41 b8 1 30b5 d 1 624b 0 1 5b57 0 1 53cc 1 1 4e8c 0 1 591a 0 1 89e3",
   "0 1 5929 0 1 4ea4 0 1 6620 0 1 7121 0 1 6599 0 1 524d 0 1 5f8c 0 1 518d 0 1 65b0 0 1 521d 0 1",
   "7d42 0 1 751f 0 1 8ca9 0 1 58f0 0 1 5439 0 1 6f14 0 1 6295 0 1 6355 0 1 4e00 0 1 4e09 0 1 904a",
   "0 1 5de6 0 1 4e2d 0 1 53f3 0 1 6307 0 1 8d70 0 1 6253 0 1 7981 0 1 7a7a 0 1 5408 0 1 6e80 0 1",
   "6709 0 1 6708 0 1 7533 0 1 5272 0 1 55b6 0 1 914d 14 1 5f97 0 1 53ef 99e a 30 fc06 1 4e3d 0 1",
   "4e38 0 1 4e41 0 1 20122 0 1 4f60 0 1 4fae 0 1 4fbb 0 1 5002 0 1 507a 0 1 5099 0 1 50e7 0 1",
   "50cf 0 1 349e 0 1 2063a 0 1 514d 0 1 5154 0 1 5164 0 1 5177 0 1 2051c 0 1 34b9 0 1 5167 0 1",
   "518d 0 1 2054b 0 1 5197 0 1 51a4 0 1 4ecc 0 1 51ac 0 1 51b5 0 1 291df 0 1 51f5 0 1 5203 0 1",
   "34df 0 1 523b 0 1 5246 0 1 5272 0 1 5277 0 1 3515 0 1 52c7 0 1 52c9 0 1 52e4 0 1 52fa 0 2 5305",
   "0 1 5317 0 1 5349 0 1 5351 0 1 535a 0 1 5373 0 1 537d 0 1 537f 0 1 537f 0 1 537f 0 1 20a2c 0 1",
   "7070 0 1 53ca 0 1 53df 0 1 20b63 0 1 53eb 0 1 53f1 0 1 5406 0 1 549e 0 1 5438 0 1 5448 0 1",
   "5468 0 1 54a2 0 1 54f6 0 1 5510 0 1 5553 0 1 5563 0 1 5584 0 1 5584 0 1 5599 0 1 55ab 0 1 55b3",
   "0 1 55c2 0 1 5716 0 1 5606 0 1 5717 0 1 5651 0 1 5674 0 1 5207 0 1 58ee 0 1 57ce 0 1 57f4 0 1",
   "580d 0 1 578b 0 1 5832 0 1 5831 0 1 58ac 0 1 214e4 0 1 58f2 0 1 58f7 0 1 5906 0 1 591a 0 1",
   "5922 0 1 5962 0 1 216a8 0 1 216ea 0 1 59ec 0 1 5a1b 0 1 5a27 0 1 59d8 0 1 5a66 0 1 36ee 0 1",
   "36fc 0 1 5b08 0 1 5b3e 0 1 5b3e 0 1 219c8 0 1 5bc3 0 1 5bd8 0 1 5be7 0 1 5bf3 0 1 21b18 0 1",
   "5bff 0 1 5c06 0 1 5f53 0 1 5c22 0 1 3781 0 1 5c60 0 1 5c6e 0 1 5cc0 0 1 5c8d 0 1 21de4 0 1",
   "5d43 0 1 21de6 0 1 5d6e 0 1 5d6b 0 1 5d7c 0 2 5de1 0 1 382f 0 1 5dfd 0 1 5e28 0 1 5e3d 0 1",
   "5e69 0 1 3862 0 1 22183 0 1 387c 0 1 5eb0 0 1 5eb3 0 1 5eb6 0 1 5eca 0 1 2a392 0 1 5efe 0 1",
   "22331 0 1 22331 0 1 8201 0 1 5f22 0 1 5f22 0 1 38c7 0 1 232b8 0 1 261da 0 1 5f62 0 1 5f6b 0 1",
   "38e3 0 1 5f9a 0 1 5fcd 0 1 5fd7 0 1 5ff9 0 1 6081 0 1 393a 0 1 391c 0 1 6094 0 1 226d4 0 1",
   "60c7 0 1 6148 0 1 614c 0 1 614e 0 1 614c 0 1 617a 0 1 618e 0 1 61b2 0 1 61a4 0 1 61af 0 1 61de",
   "0 1 61f2 0 1 61f6 0 1 6210 0 1 621b 0 1 625d 0 1 62b1 0 1 62d4 0 1 6350 0 1 22b0c 0 1 633d 0 1",
   "62fc 0 1 6368 0 1 6383 0 1 63e4 0 1 22bf1 0 1 6422 0 1 63c5 0 1 63a9 0 1 3a2e 0 1 6469 0 1",
   "647e 0 1 649d 0 1 6477 0 1 3a6c 0 1 654f 0 1 656c 0 1 2300a 0 1 65e3 0 1 66f8 0 1 6649 0 1",
   "3b19 0 1 6691 0 1 3b08 0 1 3ae4 0 1 5192 0 1 5195 0 1 6700 0 1 669c 0 1 80ad 0 1 43d9 0 1 6717",
   "0 1 671b 0 1 6721 0 1 675e 0 1 6753 0 1 233c3 0 1 3b49 0 1 67fa 0 1 6785 0 1 6852 0 1 6885 0 1",
   "2346d 0 1 688e 0 1 681f 0 1 6914 0 1 3b9d 0 1 6942 0 1 69a3 0 1 69ea 0 1 6aa8 0 1 236a3 0 1",
   "6adb 0 1 3c18 0 1 6b21 0 1 238a7 0 1 6b54 0 1 3c4e 0 1 6b72 0 1 6b9f 0 2 6bba 0 1 23a8d 0 1",
   "21d0b 0 1 23afa 0 1 6c4e 0 1 23cbc 0 1 6cbf 0 1 6ccd 0 1 6c67 0 1 6d16 0 1 6d3e 0 1 6d77 0 1",
   "6d41 0 1 6d69 0 1 6d78 0 1 6d85 0 1 23d1e 0 1 6d34 0 1 6e2f 0 1 6e6e 0 1 3d33 0 1 6ecb 0 1",
   "6ec7 0 1 23ed1 0 1 6df9 0 1 6f6e 0 1 23f5e 0 1 23f8e 0 1 6fc6 0 1 7039 0 1 701e 0 1 701b 0 1",
   "3d96 0 1 704a 0 1 707d 0 1 7077 0 1 70ad 0 1 20525 0 1 7145 0 1 24263 0 1 719c 0 1 243ab 0 1",
   "7228 0 1 7235 0 1 7250 0 1 24608 0 1 7280 0 1 7295 0 1 24735 0 1 24814 0 1 737a 0 1 738b 0 1",
   "3eac 0 1 73a5 0 1 3eb8 0 1 3eb8 0 1 7447 0 1 745c 0 1 7471 0 1 7485 0 1 74ca 0 1 3f1b 0 1 7524",
   "0 1 24c36 0 1 753e 0 1 24c92 0 1 7570 0 1 2219f 0 1 7610 0 1 24fa1 0 1 24fb8 0 1 25044 0 1",
   "3ffc 0 1 4008 0 1 76f4 0 1 250f3 0 1 250f2 0 1 25119 0 1 25133 0 2 771e 0 1 771f 0 1 774a 0 1",
   "4039 0 1 778b 0 1 4046 0 1 4096 0 1 2541d 0 1 784e 0 1 788c 0 1 78cc 0 1 40e3 0 1 25626 0 1",
   "7956 0 1 2569a 0 1 256c5 0 1 798f 0 1 79eb 0 1 412f 0 1 7a40 0 1 7a4a 0 1 7a4f 0 1 2597c 0 1",
   "25aa7 0 1 25aa7 0 1 7aee 0 1 4202 0 1 25bab 0 1 7bc6 0 1 7bc9 0 1 4227 0 1 25c80 0 1 7cd2 0 1",
   "42a0 0 1 7ce8 0 1 7ce3 0 1 7d00 0 1 25f86 0 1 7d63 0 1 4301 0 1 7dc7 0 1 7e02 0 1 7e45 0 1",
   "4334 0 1 26228 0 1 26247 0 1 4359 0 1 262d9 0 1 7f7a 0 1 2633e 0 1 7f95 0 1 7ffa 0 1 8005 0 1",
   "264da 0 1 26523 0 1 8060 0 1 265a8 0 1 8070 0 1 2335f 0 1 43d5 0 1 80b2 0 1 8103 0 1 440b 0 1",
   "813e 0 1 5ab5 0 1 267a7 0 1 267b5 0 1 23393 0 1 2339c 0 1 8201 0 1 8204 0 1 8f9e 0 1 446b 0 1",
   "8291 0 1 828b 0 1 829d 0 1 52b3 0 1 82b1 0 1 82b3 0 1 82bd 0 1 82e6 0 1 26b3c 0 1 82e5 0 1",
   "831d 0 1 8363 0 1 83ad 0 1 8323 0 1 83bd 0 1 83e7 0 1 8457 0 1 8353 0 1 83ca 0 1 83cc 0 1 83dc",
   "0 1 26c36 0 1 26d6b 0 1 26cd5 0 1 452b 0 1 84f1 0 1 84f3 0 1 8516 0 1 273ca 0 1 8564 0 1 26f2c",
   "0 1 455d 0 1 4561 0 1 26fb1 0 1 270d2 0 1 456b 0 1 8650 0 1 865c 0 1 8667 0 1 8669 0 1 86a9 0",
   "1 8688 0 1 870e 0 1 86e2 0 1 8779 0 1 8728 0 1 876b 0 1 8786 0 1 45d7 0 1 87e1 0 1 8801 0 1",
   "45f9 0 1 8860 0 1 8863 0 1 27667 0 1 88d7 0 1 88de 0 1 4635 0 1 88fa 0 1 34bb 0 1 278ae 0 1",
   "27966 0 1 46be 0 1 46c7 0 1 8aa0 0 1 8aed 0 1 8b8a 0 1 8c55 0 1 27ca8 0 1 8cab 0 1 8cc1 0 1",
   "8d1b 0 1 8d77 0 1 27f2f 0 1 20804 0 1 8dcb 0 1 8dbc 0 1 8df0 0 1 208de 0 1 8ed4 0 1 8f38 0 1",
   "285d2 0 1 285ed 0 1 9094 0 1 90f1 0 1 9111 0 1 2872e 0 1 911b 0 1 9238 0 2 92d7 0 1 927c 0 1",
   "93f9 0 1 9415 0 1 28bfa 0 1 958b 0 1 4995 0 1 95b7 0 1 28d77 0 1 49e6 0 1 96c3 0 1 5db2 0 1",
   "9723 0 1 29145 0 1 2921a 0 1 4a6e 0 1 4a76 0 1 97e0 0 1 2940a 0 1 4ab2 0 1 29496 0 1 980b 0 1",
   "980b 0 1 9829 0 1 295b6 0 1 98e2 0 1 4b33 0 1 9929 0 1 99a7 0 1 99c2 0 1 99fe 0 1 4bce 0 1",
   "29b30 0 1 9b12 0 1 9c40 0 1 9cfd 0 1 4cce 0 1 4ced 0 1 9d67 0 1 2a0ce 0 1 4cf8 0 1 2a105 0 1",
   "2a20e 0 1 2a291 0 1 9ebb 0 1 4d56 0 1 9ef9 0 1 9efe 0 1 9f05 0 1 9f0f 0 1 9f16 0 1 9f3b 0 1",
   "2a600"]

/-- Characters whose compatibility decomposition has several characters. -/
def longDecompositions : String :=
  String.intercalate " "
  ["a8 2 20 308 6 2 20 304 4 2 20 301 3 2 20 327 3 3 31 2044 34 0 3 31 2044 32 0 3 33 2044 34 1 2",
   "41 300 0 2 41 301 0 2 41 302 0 2 41 303 0 2 41 308 0 2 41 30a 1 2 43 327 0 2 45 300 0 2 45 301",
   "0 2 45 302 0 2 45 308 0 2 49 300 0 2 49 301 0 2 49 302 0 2 49 308 1 2 4e 303 0 2 4f 300 0 2 4f",
   "301 0 2 4f 302 0 2 4f 303 0 2 4f 308 2 2 55 300 0 2 55 301 0 2 55 302 0 2 55 308 0 2 59 301 2",
   "2 61 300 0 2 61 301 0 2 61 302 0 2 61 303 0 2 61 308 0 2 61 30a 1 2 63 327 0 2 65 300 0 2 65",
   "301 0 2 65 302 0 2 65 308 0 2 69 300 0 2 69 301 0 2 69 302 0 2 69 308 1 2 6e 303 0 2 6f 300 0",
   "2 6f 301 0 2 6f 302 0 2 6f 303 0 2 6f 308 2 2 75 300 0 2 75 301 0 2 75 302 0 2 75 308 0 2 79",
   "301 1 2 79 308 0 2 41 304 0 2 61 304 0 2 41 306 0 2 61 306 0 2 41 328 0 2 61 328 0 2 43 301 0",
   "2 63 301 0 2 43 302 0 2 63 302 0 2 43 307 0 2 63 307 0 2 43 30c 0 2 63 30c 0 2 44 30c 0 2 64",
   "30c 2 2 45 304 0 2 65 304 0 2 45 306 0 2 65 306 0 2 45 307 0 2 65 307 0 2 45 328 0 2 65 328 0",
   "2 45 30c 0 2 65 30c 0 2 47 302 0 2 67 302 0 2 47 306 0 2 67 306 0 2 47 307 0 2 67 307 0 2 47",
   "327 0 2 67 327 0 2 48 302 0 2 68 302 2 2 49 303 0 2 69 303 0 2 49 304 0 2 69 304 0 2 49 306 0",
   "2 69 306 0 2 49 328 0 2 69 328 0 2 49 307 1 2 49 4a 0 2 69 6a 0 2 4a 302 0 2 6a 302 0 2 4b 327",
   "0 2 6b 327 1 2 4c 301 0 2 6c 301 0 2 4c 327 0 2 6c 327 0 2 4c 30c 0 2 6c 30c 0 2 4c b7 0 2 6c",
   "b7 2 2 4e 301 0 2 6e 301 0 2 4e 327 0 2 6e 327 0 2 4e 30c 0 2 6e 30c 0 2 2bc 6e 2 2 4f 304 0 2",
   "6f 304 0 2 4f 306 0 2 6f 306 0 2 4f 30b 0 2 6f 30b 2 2 52 301 0 2 72 301 0 2 52 327 0 2 72 327",
   "0 2 52 30c 0 2 72 30c 0 2 53 301 0 2 73 301 0 2 53 302 0 2 73 302 0 2 53 327 0 2 73 327 0 2 53",
   "30c 0 2 73 30c 0 2 54 327 0 2 74 327 0 2 54 30c 0 2 74 30c 2 2 55 303 0 2 75 303 0 2 55 304 0",
   "2 75 304 0 2 55 306 0 2 75 306 0 2 55 30a 0 2 75 30a 0 2 55 30b 0 2 75 30b 0 2 55 328 0 2 75",
   "328 0 2 57 302 0 2 77 302 0 2 59 302 0 2 79 302 0 2 59 308 0 2 5a 301 0 2 7a 301 0 2 5a 307 0",
   "2 7a 307 0 2 5a 30c 0 2 7a 30c 21 2 4f 31b 0 2 6f 31b d 2 55 31b 0 2 75 31b 13 3 44 5a 30c 0 3",
   "44 7a 30c 0 3 64 7a 30c 0 2 4c 4a 0 2 4c 6a 0 2 6c 6a 0 2 4e 4a 0 2 4e 6a 0 2 6e 6a 0 2 41 30c",
   "0 2 61 30c 0 2 49 30c 0 2 69 30c 0 2 4f 30c 0 2 6f 30c 0 2 55 30c 0 2 75 30c 0 3 55 308 304 0",
   "3 75 308 304 0 3 55 308 301 0 3 75 308 301 0 3 55 308 30c 0 3 75 308 30c 0 3 55 308 300 0 3 75",
   "308 300 1 3 41 308 304 0 3 61 308 304 0 3 41 307 304 0 3 61 307 304 0 2 c6 304 0 2 e6 304 2 2",
   "47 30c 0 2 67 30c 0 2 4b 30c 0 2 6b 30c 0 2 4f 328 0 2 6f 328 0 3 4f 328 304 0 3 6f 328 304 0",
   "2 1b7 30c 0 2 292 30c 0 2 6a 30c 0 2 44 5a 0 2 44 7a 0 2 64 7a 0 2 47 301 0 2 67 301 2 2 4e",
   "300 0 2 6e 300 0 3 41 30a 301 0 3 61 30a 301 0 2 c6 301 0 2 e6 301 0 2 d8 301 0 2 f8 301 0 2",
   "41 30f 0 2 61 30f 0 2 41 311 0 2 61 311 0 2 45 30f 0 2 65 30f 0 2 45 311 0 2 65 311 0 2 49 30f",
   "0 2 69 30f 0 2 49 311 0 2 69 311 0 2 4f 30f 0 2 6f 30f 0 2 4f 311 0 2 6f 311 0 2 52 30f 0 2 72",
   "30f 0 2 52 311 0 2 72 311 0 2 55 30f 0 2 75 30f 0 2 55 311 0 2 75 311 0 2 53 326 0 2 73 326 0",
   "2 54 326 0 2 74 326 2 2 48 30c 0 2 68 30c 6 2 41 307 0 2 61 307 0 2 45 327 0 2 65 327 0 3 4f",
   "308 304 0 3 6f 308 304 0 3 4f 303 304 0 3 6f 303 304 0 2 4f 307 0 2 6f 307 0 3 4f 307 304 0 3",
   "6f 307 304 0 2 59 304 0 2 79 304 a4 2 20 306 0 2 20 307 0 2 20 30a 0 2 20 328 0 2 20 303 0 2",
   "20 30b 66 2 308 301 35 2 20 345 9 2 20 301 0 3 20 308 301 0 2 391 301 1 2 395 301 0 2 397 301",
   "0 2 399 301 1 2 39f 301 1 2 3a5 301 0 2 3a9 301 0 3 3b9 308 301 19 2 399 308 0 2 3a5 308 0 2",
   "3b1 301 0 2 3b5 301 0 2 3b7 301 0 2 3b9 301 0 3 3c5 308 301 19 2 3b9 308 0 2 3c5 308 0 2 3bf",
   "301 0 2 3c5 301 0 2 3c9 301 4 2 3a5 301 0 2 3a5 308 2b 2 415 300 0 2 415 308 1 2 413 301 3 2",
   "406 308 4 2 41a 301 0 2 418 300 0 2 423 306 a 2 418 306 1f 2 438 306 16 2 435 300 0 2 435 308",
   "1 2 433 301 3 2 456 308 4 2 43a 301 0 2 438 300 0 2 443 306 17 2 474 30f 0 2 475 30f 49 2 416",
   "306 0 2 436 306 d 2 410 306 0 2 430 306 0 2 410 308 0 2 430 308 2 2 415 306 0 2 435 306 2 2",
   "4d8 308 0 2 4d9 308 0 2 416 308 0 2 436 308 0 2 417 308 0 2 437 308 2 2 418 304 0 2 438 304 0",
   "2 418 308 0 2 438 308 0 2 41e 308 0 2 43e 308 2 2 4e8 308 0 2 4e9 308 0 2 42d 308 0 2 44d 308",
   "0 2 423 304 0 2 443 304 0 2 423 308 0 2 443 308 0 2 423 30b 0 2 443 30b 0 2 427 308 0 2 447",
   "308 2 2 42b 308 0 2 44b 308 8d 2 565 582 9a 2 627 653 0 2 627 654 0 2 648 654 0 2 627 655 0 2",
   "64a 654 4e 2 627 674 0 2 648 674 0 2 6c7 674 0 2 64a 674 47 2 6d5 654 1 2 6c1 654 10 2 6d2 654",
   "255 2 928 93c 7 2 930 93c 2 2 933 93c 23 2 915 93c 0 2 916 93c 0 2 917 93c 0 2 91c 93c 0 2 921",
   "93c 0 2 922 93c 0 2 92b 93c 0 2 92f 93c 6b 2 9c7 9be 0 2 9c7 9d7 f 2 9a1 9bc 0 2 9a2 9bc 1 2",
   "9af 9bc 53 2 a32 a3c 2 2 a38 a3c 22 2 a16 a3c 0 2 a17 a3c 0 2 a1c a3c 2 2 a2b a3c e9 2 b47 b56",
   "2 2 b47 b3e 0 2 b47 b57 f 2 b21 b3c 0 2 b22 b3c 36 2 b92 bd7 35 2 bc6 bbe 0 2 bc7 bbe 0 2 bc6",
   "bd7 7b 2 c46 c56 77 2 cbf cd5 6 2 cc6 cd5 0 2 cc6 cd6 1 2 cc6 cc2 0 3 cc6 cc2 cd5 7e 2 d46 d3e",
   "0 2 d47 d3e 0 2 d46 d57 8d 2 dd9 dca 1 2 dd9 dcf 0 3 dd9 dcf dca 0 2 dd9 ddf 54 2 e4d e32 7f 2",
   "ecd eb2 28 2 eab e99 0 2 eab ea1 65 2 f42 fb7 9 2 f4c fb7 4 2 f51 fb7 4 2 f56 fb7 4 2 f5b fb7",
   "c 2 f40 fb5 9 2 f71 f72 1 2 f71 f74 0 2 fb2 f80 0 3 fb2 f71 f80 0 2 fb3 f80 0 3 fb3 f71 f80 7",
   "2 f71 f80 11 2 f92 fb7 9 2 f9c fb7 4 2 fa1 fb7 4 2 fa6 fb7 4 2 fab fb7 c 2 f90 fb5 6c 2 1025",
   "102e adf 2 1b05 1b35 1 2 1b07 1b35 1 2 1b09 1b35 1 2 1b0b 1b35 1 2 1b0d 1b35 3 2 1b11 1b35 28",
   "2 1b3a 1b35 1 2 1b3c 1b35 2 2 1b3e 1b35 0 2 1b3f 1b35 1 2 1b42 1b35 2bc 2 41 325 0 2 61 325 0",
   "2 42 307 0 2 62 307 0 2 42 323 0 2 62 323 0 2 42 331 0 2 62 331 0 3 43 327 301 0 3 63 327 301",
   "0 2 44 307 0 2 64 307 0 2 44 323 0 2 64 323 0 2 44 331 0 2 64 331 0 2 44 327 0 2 64 327 0 2 44",
   "32d 0 2 64 32d 0 3 45 304 300 0 3 65 304 300 0 3 45 304 301 0 3 65 304 301 0 2 45 32d 0 2 65",
   "32d 0 2 45 330 0 2 65 330 0 3 45 327 306 0 3 65 327 306 0 2 46 307 0 2 66 307 0 2 47 304 0 2",
   "67 304 0 2 48 307 0 2 68 307 0 2 48 323 0 2 68 323 0 2 48 308 0 2 68 308 0 2 48 327 0 2 68 327",
   "0 2 48 32e 0 2 68 32e 0 2 49 330 0 2 69 330 0 3 49 308 301 0 3 69 308 301 0 2 4b 301 0 2 6b",
   "301 0 2 4b 323 0 2 6b 323 0 2 4b 331 0 2 6b 331 0 2 4c 323 0 2 6c 323 0 3 4c 323 304 0 3 6c",
   "323 304 0 2 4c 331 0 2 6c 331 0 2 4c 32d 0 2 6c 32d 0 2 4d 301 0 2 6d 301 0 2 4d 307 0 2 6d",
   "307 0 2 4d 323 0 2 6d 323 0 2 4e 307 0 2 6e 307 0 2 4e 323 0 2 6e 323 0 2 4e 331 0 2 6e 331 0",
   "2 4e 32d 0 2 6e 32d 0 3 4f 303 301 0 3 6f 303 301 0 3 4f 303 308 0 3 6f 303 308 0 3 4f 304 300",
   "0 3 6f 304 300 0 3 4f 304 301 0 3 6f 304 301 0 2 50 301 0 2 70 301 0 2 50 307 0 2 70 307 0 2",
   "52 307 0 2 72 307 0 2 52 323 0 2 72 323 0 3 52 323 304 0 3 72 323 304 0 2 52 331 0 2 72 331 0",
   "2 53 307 0 2 73 307 0 2 53 323 0 2 73 323 0 3 53 301 307 0 3 73 301 307 0 3 53 30c 307 0 3 73",
   "30c 307 0 3 53 323 307 0 3 73 323 307 0 2 54 307 0 2 74 307 0 2 54 323 0 2 74 323 0 2 54 331 0",
   "2 74 331 0 2 54 32d 0 2 74 32d 0 2 55 324 0 2 75 324 0 2 55 330 0 2 75 330 0 2 55 32d 0 2 75",
   "32d 0 3 55 303 301 0 3 75 303 301 0 3 55 304 308 0 3 75 304 308 0 2 56 303 0 2 76 303 0 2 56",
   "323 0 2 76 323 0 2 57 300 0 2 77 300 0 2 57 301 0 2 77 301 0 2 57 308 0 2 77 308 0 2 57 307 0",
   "2 77 307 0 2 57 323 0 2 77 323 0 2 58 307 0 2 78 307 0 2 58 308 0 2 78 308 0 2 59 307 0 2 79",
   "307 0 2 5a 302 0 2 7a 302 0 2 5a 323 0 2 7a 323 0 2 5a 331 0 2 7a 331 0 2 68 331 0 2 74 308 0",
   "2 77 30a 0 2 79 30a 0 2 61 2be 0 2 73 307 4 2 41 323 0 2 61 323 0 2 41 309 0 2 61 309 0 3 41",
   "302 301 0 3 61 302 301 0 3 41 302 300 0 3 61 302 300 0 3 41 302 309 0 3 61 302 309 0 3 41 302",
   "303 0 3 61 302 303 0 3 41 323 302 0 3 61 323 302 0 3 41 306 301 0 3 61 306 301 0 3 41 306 300",
   "0 3 61 306 300 0 3 41 306 309 0 3 61 306 309 0 3 41 306 303 0 3 61 306 303 0 3 41 323 306 0 3",
   "61 323 306 0 2 45 323 0 2 65 323 0 2 45 309 0 2 65 309 0 2 45 303 0 2 65 303 0 3 45 302 301 0",
   "3 65 302 301 0 3 45 302 300 0 3 65 302 300 0 3 45 302 309 0 3 65 302 309 0 3 45 302 303 0 3 65",
   "302 303 0 3 45 323 302 0 3 65 323 302 0 2 49 309 0 2 69 309 0 2 49 323 0 2 69 323 0 2 4f 323 0",
   "2 6f 323 0 2 4f 309 0 2 6f 309 0 3 4f 302 301 0 3 6f 302 301 0 3 4f 302 300 0 3 6f 302 300 0 3",
   "4f 302 309 0 3 6f 302 309 0 3 4f 302 303 0 3 6f 302 303 0 3 4f 323 302 0 3 6f 323 302 0 3 4f",
   "31b 301 0 3 6f 31b 301 0 3 4f 31b 300 0 3 6f 31b 300 0 3 4f 31b 309 0 3 6f 31b 309 0 3 4f 31b",
   "303 0 3 6f 31b 303 0 3 4f 31b 323 0 3 6f 31b 323 0 2 55 323 0 2 75 323 0 2 55 309 0 2 75 309 0",
   "3 55 31b 301 0 3 75 31b 301 0 3 55 31b 300 0 3 75 31b 300 0 3 55 31b 309 0 3 75 31b 309 0 3 55",
   "31b 303 0 3 75 31b 303 0 3 55 31b 323 0 3 75 31b 323 0 2 59 300 0 2 79 300 0 2 59 323 0 2 79",
   "323 0 2 59 309 0 2 79 309 0 2 59 303 0 2 79 303 6 2 3b1 313 0 2 3b1 314 0 3 3b1 313 300 0 3",
   "3b1 314 300 0 3 3b1 313 301 0 3 3b1 314 301 0 3 3b1 313 342 0 3 3b1 314 342 0 2 391 313 0 2",
   "391 314 0 3 391 313 300 0 3 391 314 300 0 3 391 313 301 0 3 391 314 301 0 3 391 313 342 0 3",
   "391 314 342 0 2 3b5 313 0 2 3b5 314 0 3 3b5 313 300 0 3 3b5 314 300 0 3 3b5 313 301 0 3 3b5",
   "314 301 2 2 395 313 0 2 395 314 0 3 395 313 300 0 3 395 314 300 0 3 395 313 301 0 3 395 314",
   "301 2 2 3b7 313 0 2 3b7 314 0 3 3b7 313 300 0 3 3b7 314 300 0 3 3b7 313 301 0 3 3b7 314 301 0",
   "3 3b7 313 342 0 3 3b7 314 342 0 2 397 313 0 2 397 314 0 3 397 313 300 0 3 397 314 300 0 3 397",
   "313 301 0 3 397 314 301 0 3 397 313 342 0 3 397 314 342 0 2 3b9 313 0 2 3b9 314 0 3 3b9 313",
   "300 0 3 3b9 314 300 0 3 3b9 313 301 0 3 3b9 314 301 0 3 3b9 313 342 0 3 3b9 314 342 0 2 399",
   "313 0 2 399 314 0 3 399 313 300 0 3 399 314 300 0 3 399 313 301 0 3 399 314 301 0 3 399 313",
   "342 0 3 399 314 342 0 2 3bf 313 0 2 3bf 314 0 3 3bf 313 300 0 3 3bf 314 300 0 3 3bf 313 301 0",
   "3 3bf 314 301 2 2 39f 313 0 2 39f 314 0 3 39f 313 300 0 3 39f 314 300 0 3 39f 313 301 0 3 39f",
   "314 301 2 2 3c5 313 0 2 3c5 314 0 3 3c5 313 300 0 3 3c5 314 300 0 3 3c5 313 301 0 3 3c5 314",
   "301 0 3 3c5 313 342 0 3 3c5 314 342 1 2 3a5 314 1 3 3a5 314 300 1 3 3a5 314 301 1 3 3a5 314",
   "342 0 2 3c9 313 0 2 3c9 314 0 3 3c9 313 300 0 3 3c9 314 300 0 3 3c9 313 301 0 3 3c9 314 301 0",
   "3 3c9 313 342 0 3 3c9 314 342 0 2 3a9 313 0 2 3a9 314 0 3 3a9 313 300 0 3 3a9 314 300 0 3 3a9",
   "313 301 0 3 3a9 314 301 0 3 3a9 313 342 0 3 3a9 314 342 0 2 3b1 300 0 2 3b1 301 0 2 3b5 300 0",
   "2 3b5 301 0 2 3b7 300 0 2 3b7 301 0 2 3b9 300 0 2 3b9 301 0 2 3bf 300 0 2 3bf 301 0 2 3c5 300",
   "0 2 3c5 301 0 2 3c9 300 0 2 3c9 301 2 3 3b1 313 345 0 3 3b1 314 345 0 4 3b1 313 300 345 0 4",
   "3b1 314 300 345 0 4 3b1 313 301 345 0 4 3b1 314 301 345 0 4 3b1 313 342 345 0 4 3b1 314 342",
   "345 0 3 391 313 345 0 3 391 314 345 0 4 391 313 300 345 0 4 391 314 300 345 0 4 391 313 301",
   "345 0 4 391 314 301 345 0 4 391 313 342 345 0 4 391 314 342 345 0 3 3b7 313 345 0 3 3b7 314",
   "345 0 4 3b7 313 300 345 0 4 3b7 314 300 345 0 4 3b7 313 301 345 0 4 3b7 314 301 345 0 4 3b7",
   "313 342 345 0 4 3b7 314 342 345 0 3 397 313 345 0 3 397 314 345 0 4 397 313 300 345 0 4 397",
   "314 300 345 0 4 397 313 301 345 0 4 397 314 301 345 0 4 397 313 342 345 0 4 397 314 342 345 0",
   "3 3c9 313 345 0 3 3c9 314 345 0 4 3c9 313 300 345 0 4 3c9 314 300 345 0 4 3c9 313 301 345 0 4",
   "3c9 314 301 345 0 4 3c9 313 342 345 0 4 3c9 314 342 345 0 3 3a9 313 345 0 3 3a9 314 345 0 4",
   "3a9 313 300 345 0 4 3a9 314 300 345 0 4 3a9 313 301 345 0 4 3a9 314 301 345 0 4 3a9 313 342",
   "345 0 4 3a9 314 342 345 0 2 3b1 306 0 2 3b1 304 0 3 3b1 300 345 0 2 3b1 345 0 3 3b1 301 345 1",
   "2 3b1 342 0 3 3b1 342 345 0 2 391 306 0 2 391 304 0 2 391 300 0 2 391 301 0 2 391 345 0 2 20",
   "313 1 2 20 313 0 2 20 342 0 3 20 308 342 0 3 3b7 300 345 0 2 3b7 345 0 3 3b7 301 345 1 2 3b7",
   "342 0 3 3b7 342 345 0 2 395 300 0 2 395 301 0 2 397 300 0 2 397 301 0 2 397 345 0 3 20 313 300",
   "0 3 20 313 301 0 3 20 313 342 0 2 3b9 306 0 2 3b9 304 0 3 3b9 308 300 0 3 3b9 308 301 2 2 3b9",
   "342 0 3 3b9 308 342 0 2 399 306 0 2 399 304 0 2 399 300 0 2 399 301 1 3 20 314 300 0 3 20 314",
   "301 0 3 20 314 342 0 2 3c5 306 0 2 3c5 304 0 3 3c5 308 300 0 3 3c5 308 301 0 2 3c1 313 0 2 3c1",
   "314 0 2 3c5 342 0 3 3c5 308 342 0 2 3a5 306 0 2 3a5 304 0 2 3a5 300 0 2 3a5 301 0 2 3a1 314 0",
   "3 20 308 300 0 3 20 308 301 3 3 3c9 300 345 0 2 3c9 345 0 3 3c9 301 345 1 2 3c9 342 0 3 3c9",
   "342 345 0 2 39f 300 0 2 39f 301 0 2 3a9 300 0 2 3a9 301 0 2 3a9 345 0 2 20 301 0 2 20 314 18 2",
   "20 333 d 2 2e 2e 0 3 2e 2e 2e c 2 2032 2032 0 3 2032 2032 2032 1 2 2035 2035 0 3 2035 2035",
   "2035 4 2 21 21 1 2 20 305 8 2 3f 3f 0 2 3f 21 0 2 21 3f d 4 2032 2032 2032 2032 50 2 52 73 57",
   "3 61 2f 63 0 3 61 2f 73 1 2 b0 43 1 3 63 2f 6f 0 3 63 2f 75 2 2 b0 46 c 2 4e 6f 9 2 53 4d 0 3",
   "54 45 4c 0 2 54 4d 8 2 41 30a f 3 46 41 58 14 3 31 2044 37 0 3 31 2044 39 0 4 31 2044 31 30 0",
   "3 31 2044 33 0 3 32 2044 33 0 3 31 2044 35 0 3 32 2044 35 0 3 33 2044 35 0 3 34 2044 35 0 3 31",
   "2044 36 0 3 35 2044 36 0 3 31 2044 38 0 3 33 2044 38 0 3 35 2044 38 0 3 37 2044 38 0 2 31 2044",
   "1 2 49 49 0 3 49 49 49 0 2 49 56 1 2 56 49 0 3 56 49 49 0 4 56 49 49 49 0 2 49 58 1 2 58 49 0",
   "3 58 49 49 5 2 69 69 0 3 69 69 69 0 2 69 76 1 2 76 69 0 3 76 69 69 0 4 76 69 69 69 0 2 69 78 1",
   "2 78 69 0 3 78 69 69 d 3 30 2044 33 10 2 2190 338 0 2 2192 338 12 2 2194 338 1e 2 21d0 338 0 2",
   "21d4 338 0 2 21d2 338 34 2 2203 338 4 2 2208 338 2 2 220b 338 17 2 2223 338 1 2 2225 338 5 2",
   "222b 222b 0 3 222b 222b 222b 1 2 222e 222e 0 3 222e 222e 222e 10 2 223c 338 2 2 2243 338 2 2",
   "2245 338 1 2 2248 338 16 2 3d 338 1 2 2261 338 a 2 224d 338 0 2 3c 338 0 2 3e 338 0 2 2264 338",
   "0 2 2265 338 2 2 2272 338 0 2 2273 338 2 2 2276 338 0 2 2277 338 6 2 227a 338 0 2 227b 338 2 2",
   "2282 338 0 2 2283 338 2 2 2286 338 0 2 2287 338 22 2 22a2 338 0 2 22a8 338 0 2 22a9 338 0 2",
   "22ab 338 30 2 227c 338 0 2 227d 338 0 2 2291 338 0 2 2292 338 6 2 22b2 338 0 2 22b3 338 0 2",
   "22b4 338 0 2 22b5 338 17b 2 31 30 0 2 31 31 0 2 31 32 0 2 31 33 0 2 31 34 0 2 31 35 0 2 31 36",
   "0 2 31 37 0 2 31 38 0 2 31 39 0 2 32 30 0 3 28 31 29 0 3 28 32 29 0 3 28 33 29 0 3 28 34 29 0",
   "3 28 35 29 0 3 28 36 29 0 3 28 37 29 0 3 28 38 29 0 3 28 39 29 0 4 28 31 30 29 0 4 28 31 31 29",
   "0 4 28 31 32 29 0 4 28 31 33 29 0 4 28 31 34 29 0 4 28 31 35 29 0 4 28 31 36 29 0 4 28 31 37",
   "29 0 4 28 31 38 29 0 4 28 31 39 29 0 4 28 32 30 29 0 2 31 2e 0 2 32 2e 0 2 33 2e 0 2 34 2e 0 2",
   "35 2e 0 2 36 2e 0 2 37 2e 0 2 38 2e 0 2 39 2e 0 3 31 30 2e 0 3 31 31 2e 0 3 31 32 2e 0 3 31 33",
   "2e 0 3 31 34 2e 0 3 31 35 2e 0 3 31 36 2e 0 3 31 37 2e 0 3 31 38 2e 0 3 31 39 2e 0 3 32 30 2e",
   "0 3 28 61 29 0 3 28 62 29 0 3 28 63 29 0 3 28 64 29 0 3 28 65 29 0 3 28 66 29 0 3 28 67 29 0 3",
   "28 68 29 0 3 28 69 29 0 3 28 6a 29 0 3 28 6b 29 0 3 28 6c 29 0 3 28 6d 29 0 3 28 6e 29 0 3 28",
   "6f 29 0 3 28 70 29 0 3 28 71 29 0 3 28 72 29 0 3 28 73 29 0 3 28 74 29 0 3 28 75 29 0 3 28 76",
   "29 0 3 28 77 29 0 3 28 78 29 0 3 28 79 29 0 3 28 7a 29 556 4 222b 222b 222b 222b 67 3 3a 3a 3d",
   "0 2 3d 3d 0 3 3d 3d 3d 65 2 2add 338 56f 2 304b 3099 1 2 304d 3099 1 2 304f 3099 1 2 3051 3099",
   "1 2 3053 3099 1 2 3055 3099 1 2 3057 3099 1 2 3059 3099 1 2 305b 3099 1 2 305d 3099 1 2 305f",
   "3099 1 2 3061 3099 2 2 3064 3099 1 2 3066 3099 1 2 3068 3099 6 2 306f 3099 0 2 306f 309a 1 2",
   "3072 3099 0 2 3072 309a 1 2 3075 3099 0 2 3075 309a 1 2 3078 3099 0 2 3078 309a 1 2 307b 3099",
   "0 2 307b 309a 16 2 3046 3099 6 2 20 3099 0 2 20 309a 1 2 309d 3099 0 2 3088 308a c 2 30ab 3099",
   "1 2 30ad 3099 1 2 30af 3099 1 2 30b1 3099 1 2 30b3 3099 1 2 30b5 3099 1 2 30b7 3099 1 2 30b9",
   "3099 1 2 30bb 3099 1 2 30bd 3099 1 2 30bf 3099 1 2 30c1 3099 2 2 30c4 3099 1 2 30c6 3099 1 2",
   "30c8 3099 6 2 30cf 3099 0 2 30cf 309a 1 2 30d2 3099 0 2 30d2 309a 1 2 30d5 3099 0 2 30d5 309a",
   "1 2 30d8 3099 0 2 30d8 309a 1 2 30db 3099 0 2 30db 309a 16 2 30a6 3099 2 2 30ef 3099 0 2 30f0",
   "3099 0 2 30f1 3099 0 2 30f2 3099 3 2 30fd 3099 0 2 30b3 30c8 100 3 28 1100 29 0 3 28 1102 29 0",
   "3 28 1103 29 0 3 28 1105 29 0 3 28 1106 29 0 3 28 1107 29 0 3 28 1109 29 0 3 28 110b 29 0 3 28",
   "110c 29 0 3 28 110e 29 0 3 28 110f 29 0 3 28 1110 29 0 3 28 1111 29 0 3 28 1112 29 0 4 28 1100",
   "1161 29 0 4 28 1102 1161 29 0 4 28 1103 1161 29 0 4 28 1105 1161 29 0 4 28 1106 1161 29 0 4 28",
   "1107 1161 29 0 4 28 1109 1161 29 0 4 28 110b 1161 29 0 4 28 110c 1161 29 0 4 28 110e 1161 29 0",
   "4 28 110f 1161 29 0 4 28 1110 1161 29 0 4 28 1111 1161 29 0 4 28 1112 1161 29 0 4 28 110c 116e",
   "29 0 7 28 110b 1169 110c 1165 11ab 29 0 6 28 110b 1169 1112 116e 29 1 3 28 4e00 29 0 3 28 4e8c",
   "29 0 3 28 4e09 29 0 3 28 56db 29 0 3 28 4e94 29 0 3 28 516d 29 0 3 28 4e03 29 0 3 28 516b 29 0",
   "3 28 4e5d 29 0 3 28 5341 29 0 3 28 6708 29 0 3 28 706b 29 0 3 28 6c34 29 0 3 28 6728 29 0 3 28",
   "91d1 29 0 3 28 571f 29 0 3 28 65e5 29 0 3 28 682a 29 0 3 28 6709 29 0 3 28 793e 29 0 3 28 540d",
   "29 0 3 28 7279 29 0 3 28 8ca1 29 0 3 28 795d 29 0 3 28 52b4 29 0 3 28 4ee3 29 0 3 28 547c 29 0",
   "3 28 5b66 29 0 3 28 76e3 29 0 3 28 4f01 29 0 3 28 8cc7 29 0 3 28 5354 29 0 3 28 796d 29 0 3 28",
   "4f11 29 0 3 28 81ea 29 0 3 28 81f3 29 c 3 50 54 45 0 2 32 31 0 2 32 32 0 2 32 33 0 2 32 34 0 2",
   "32 35 0 2 32 36 0 2 32 37 0 2 32 38 0 2 32 39 0 2 33 30 0 2 33 31 0 2 33 32 0 2 33 33 0 2 33",
   "34 0 2 33 35 e 2 1100 1161 0 2 1102 1161 0 2 1103 1161 0 2 1105 1161 0 2 1106 1161 0 2 1107",
   "1161 0 2 1109 1161 0 2 110b 1161 0 2 110c 1161 0 2 110e 1161 0 2 110f 1161 0 2 1110 1161 0 2",
   "1111 1161 0 2 1112 1161 0 5 110e 1161 11b7 1100 1169 0 4 110c 116e 110b 1174 0 2 110b 116e 32",
   "2 33 36 0 2 33 37 0 2 33 38 0 2 33 39 0 2 34 30 0 2 34 31 0 2 34 32 0 2 34 33 0 2 34 34 0 2 34",
   "35 0 2 34 36 0 2 34 37 0 2 34 38 0 2 34 39 0 2 35 30 0 2 31 6708 0 2 32 6708 0 2 33 6708 0 2",
   "34 6708 0 2 35 6708 0 2 36 6708 0 2 37 6708 0 2 38 6708 0 2 39 6708 0 3 31 30 6708 0 3 31 31",
   "6708 0 3 31 32 6708 0 2 48 67 0 3 65 72 67 0 2 65 56 0 3 4c 54 44 2f 2 4ee4 548c 0 5 30a2 30cf",
   "309a 30fc 30c8 0 4 30a2 30eb 30d5 30a1 0 5 30a2 30f3 30d8 309a 30a2 0 3 30a2 30fc 30eb 0 5",
   "30a4 30cb 30f3 30af 3099 0 3 30a4 30f3 30c1 0 3 30a6 30a9 30f3 0 6 30a8 30b9 30af 30fc 30c8",
   "3099 0 4 30a8 30fc 30ab 30fc 0 3 30aa 30f3 30b9 0 3 30aa 30fc 30e0 0 3 30ab 30a4 30ea 0 4 30ab",
   "30e9 30c3 30c8 0 4 30ab 30ed 30ea 30fc 0 4 30ab 3099 30ed 30f3 0 4 30ab 3099 30f3 30de 0 4",
   "30ad 3099 30ab 3099 0 4 30ad 3099 30cb 30fc 0 4 30ad 30e5 30ea 30fc 0 6 30ad 3099 30eb 30bf",
   "3099 30fc 0 2 30ad 30ed 0 6 30ad 30ed 30af 3099 30e9 30e0 0 6 30ad 30ed 30e1 30fc 30c8 30eb 0",
   "5 30ad 30ed 30ef 30c3 30c8 0 4 30af 3099 30e9 30e0 0 6 30af 3099 30e9 30e0 30c8 30f3 0 6 30af",
   "30eb 30bb 3099 30a4 30ed 0 4 30af 30ed 30fc 30cd 0 3 30b1 30fc 30b9 0 3 30b3 30eb 30ca 0 4",
   "30b3 30fc 30db 309a 0 4 30b5 30a4 30af 30eb 0 5 30b5 30f3 30c1 30fc 30e0 0 5 30b7 30ea 30f3",
   "30af 3099 0 3 30bb 30f3 30c1 0 3 30bb 30f3 30c8 0 4 30bf 3099 30fc 30b9 0 3 30c6 3099 30b7 0 3",
   "30c8 3099 30eb 0 2 30c8 30f3 0 2 30ca 30ce 0 3 30ce 30c3 30c8 0 3 30cf 30a4 30c4 0 6 30cf 309a",
   "30fc 30bb 30f3 30c8 0 4 30cf 309a 30fc 30c4 0 5 30cf 3099 30fc 30ec 30eb 0 6 30d2 309a 30a2",
   "30b9 30c8 30eb 0 4 30d2 309a 30af 30eb 0 3 30d2 309a 30b3 0 3 30d2 3099 30eb 0 6 30d5 30a1",
   "30e9 30c3 30c8 3099 0 4 30d5 30a3 30fc 30c8 0 6 30d5 3099 30c3 30b7 30a7 30eb 0 3 30d5 30e9",
   "30f3 0 5 30d8 30af 30bf 30fc 30eb 0 3 30d8 309a 30bd 0 4 30d8 309a 30cb 30d2 0 3 30d8 30eb",
   "30c4 0 4 30d8 309a 30f3 30b9 0 5 30d8 309a 30fc 30b7 3099 0 4 30d8 3099 30fc 30bf 0 5 30db",
   "309a 30a4 30f3 30c8 0 4 30db 3099 30eb 30c8 0 2 30db 30f3 0 5 30db 309a 30f3 30c8 3099 0 3",
   "30db 30fc 30eb 0 3 30db 30fc 30f3 0 4 30de 30a4 30af 30ed 0 3 30de 30a4 30eb 0 3 30de 30c3",
   "30cf 0 3 30de 30eb 30af 0 5 30de 30f3 30b7 30e7 30f3 0 4 30df 30af 30ed 30f3 0 2 30df 30ea 0 6",
   "30df 30ea 30cf 3099 30fc 30eb 0 3 30e1 30ab 3099 0 5 30e1 30ab 3099 30c8 30f3 0 4 30e1 30fc",
   "30c8 30eb 0 4 30e4 30fc 30c8 3099 0 3 30e4 30fc 30eb 0 3 30e6 30a2 30f3 0 4 30ea 30c3 30c8",
   "30eb 0 2 30ea 30e9 0 4 30eb 30d2 309a 30fc 0 5 30eb 30fc 30d5 3099 30eb 0 2 30ec 30e0 0 6 30ec",
   "30f3 30c8 30b1 3099 30f3 0 3 30ef 30c3 30c8 0 2 30 70b9 0 2 31 70b9 0 2 32 70b9 0 2 33 70b9 0",
   "2 34 70b9 0 2 35 70b9 0 2 36 70b9 0 2 37 70b9 0 2 38 70b9 0 2 39 70b9 0 3 31 30 70b9 0 3 31 31",
   "70b9 0 3 31 32 70b9 0 3 31 33 70b9 0 3 31 34 70b9 0 3 31 35 70b9 0 3 31 36 70b9 0 3 31 37 70b9",
   "0 3 31 38 70b9 0 3 31 39 70b9 0 3 32 30 70b9 0 3 32 31 70b9 0 3 32 32 70b9 0 3 32 33 70b9 0 3",
   "32 34 70b9 0 3 68 50 61 0 2 64 61 0 2 41 55 0 3 62 61 72 0 2 6f 56 0 2 70 63 0 2 64 6d 0 3 64",
   "6d 32 0 3 64 6d 33 0 2 49 55 0 2 5e73 6210 0 2 662d 548c 0 2 5927 6b63 0 2 660e 6cbb 0 4 682a",
   "5f0f 4f1a 793e 0 2 70 41 0 2 6e 41 0 2 3bc 41 0 2 6d 41 0 2 6b 41 0 2 4b 42 0 2 4d 42 0 2 47",
   "42 0 3 63 61 6c 0 4 6b 63 61 6c 0 2 70 46 0 2 6e 46 0 2 3bc 46 0 2 3bc 67 0 2 6d 67 0 2 6b 67",
   "0 2 48 7a 0 3 6b 48 7a 0 3 4d 48 7a 0 3 47 48 7a 0 3 54 48 7a 0 2 3bc 6c 0 2 6d 6c 0 2 64 6c 0",
   "2 6b 6c 0 2 66 6d 0 2 6e 6d 0 2 3bc 6d 0 2 6d 6d 0 2 63 6d 0 2 6b 6d 0 3 6d 6d 32 0 3 63 6d 32",
   "0 2 6d 32 0 3 6b 6d 32 0 3 6d 6d 33 0 3 63 6d 33 0 2 6d 33 0 3 6b 6d 33 0 3 6d 2215 73 0 4 6d",
   "2215 73 32 0 2 50 61 0 3 6b 50 61 0 3 4d 50 61 0 3 47 50 61 0 3 72 61 64 0 5 72 61 64 2215 73",
   "0 6 72 61 64 2215 73 32 0 2 70 73 0 2 6e 73 0 2 3bc 73 0 2 6d 73 0 2 70 56 0 2 6e 56 0 2 3bc",
   "56 0 2 6d 56 0 2 6b 56 0 2 4d 56 0 2 70 57 0 2 6e 57 0 2 3bc 57 0 2 6d 57 0 2 6b 57 0 2 4d 57",
   "0 2 6b 3a9 0 2 4d 3a9 0 4 61 2e 6d 2e 0 2 42 71 0 2 63 63 0 2 63 64 0 4 43 2215 6b 67 0 3 43",
   "6f 2e 0 2 64 42 0 2 47 79 0 2 68 61 0 2 48 50 0 2 69 6e 0 2 4b 4b 0 2 4b 4d 0 2 6b 74 0 2 6c",
   "6d 0 2 6c 6e 0 3 6c 6f 67 0 2 6c 78 0 2 6d 62 0 3 6d 69 6c 0 3 6d 6f 6c 0 2 50 48 0 4 70 2e 6d",
   "2e 0 3 50 50 4d 0 2 50 52 0 2 73 72 0 2 53 76 0 2 57 62 0 3 56 2215 6d 0 3 41 2215 6d 0 2 31",
   "65e5 0 2 32 65e5 0 2 33 65e5 0 2 34 65e5 0 2 35 65e5 0 2 36 65e5 0 2 37 65e5 0 2 38 65e5 0 2",
   "39 65e5 0 3 31 30 65e5 0 3 31 31 65e5 0 3 31 32 65e5 0 3 31 33 65e5 0 3 31 34 65e5 0 3 31 35",
   "65e5 0 3 31 36 65e5 0 3 31 37 65e5 0 3 31 38 65e5 0 3 31 39 65e5 0 3 32 30 65e5 0 3 32 31 65e5",
   "0 3 32 32 65e5 0 3 32 33 65e5 0 3 32 34 65e5 0 3 32 35 65e5 0 3 32 36 65e5 0 3 32 37 65e5 0 3",
   "32 38 65e5 0 3 32 39 65e5 0 3 33 30 65e5 0 3 33 31 65e5 0 3 67 61 6c c700 2 66 66 0 2 66 69 0",
   "2 66 6c 0 3 66 66 69 0 3 66 66 6c 0 2 73 74 0 2 73 74 c 2 574 576 0 2 574 565 0 2 574 56b 0 2",
   "57e 576 0 2 574 56d 5 2 5d9 5b4 1 2 5f2 5b7 a 2 5e9 5c1 0 2 5e9 5c2 0 3 5e9 5bc 5c1 0 3 5e9",
   "5bc 5c2 0 2 5d0 5b7 0 2 5d0 5b8 0 2 5d0 5bc 0 2 5d1 5bc 0 2 5d2 5bc 0 2 5d3 5bc 0 2 5d4 5bc 0",
   "2 5d5 5bc 0 2 5d6 5bc 1 2 5d8 5bc 0 2 5d9 5bc 0 2 5da 5bc 0 2 5db 5bc 0 2 5dc 5bc 1 2 5de 5bc",
   "1 2 5e0 5bc 0 2 5e1 5bc 1 2 5e3 5bc 0 2 5e4 5bc 1 2 5e6 5bc 0 2 5e7 5bc 0 2 5e8 5bc 0 2 5e9",
   "5bc 0 2 5ea 5bc 0 2 5d5 5b9 0 2 5d1 5bf 0 2 5db 5bf 0 2 5e4 5bf 0 2 5d0 5dc 54 2 6d5 654 0 2",
   "6d5 654 a 2 6d2 654 0 2 6d2 654 2b 2 6c7 674 c 3 64a 654 627 0 3 64a 654 627 0 3 64a 654 6d5 0",
   "3 64a 654 6d5 0 3 64a 654 648 0 3 64a 654 648 0 3 64a 654 6c7 0 3 64a 654 6c7 0 3 64a 654 6c6",
   "0 3 64a 654 6c6 0 3 64a 654 6c8 0 3 64a 654 6c8 0 3 64a 654 6d0 0 3 64a 654 6d0 0 3 64a 654",
   "6d0 0 3 64a 654 649 0 3 64a 654 649 0 3 64a 654 649 4 3 64a 654 62c 0 3 64a 654 62d 0 3 64a",
   "654 645 0 3 64a 654 649 0 3 64a 654 64a 0 2 628 62c 0 2 628 62d 0 2 628 62e 0 2 628 645 0 2",
   "628 649 0 2 628 64a 0 2 62a 62c 0 2 62a 62d 0 2 62a 62e 0 2 62a 645 0 2 62a 649 0 2 62a 64a 0",
   "2 62b 62c 0 2 62b 645 0 2 62b 649 0 2 62b 64a 0 2 62c 62d 0 2 62c 645 0 2 62d 62c 0 2 62d 645",
   "0 2 62e 62c 0 2 62e 62d 0 2 62e 645 0 2 633 62c 0 2 633 62d 0 2 633 62e 0 2 633 645 0 2 635",
   "62d 0 2 635 645 0 2 636 62c 0 2 636 62d 0 2 636 62e 0 2 636 645 0 2 637 62d 0 2 637 645 0 2",
   "638 645 0 2 639 62c 0 2 639 645 0 2 63a 62c 0 2 63a 645 0 2 641 62c 0 2 641 62d 0 2 641 62e 0",
   "2 641 645 0 2 641 649 0 2 641 64a 0 2 642 62d 0 2 642 645 0 2 642 649 0 2 642 64a 0 2 643 627",
   "0 2 643 62c 0 2 643 62d 0 2 643 62e 0 2 643 644 0 2 643 645 0 2 643 649 0 2 643 64a 0 2 644",
   "62c 0 2 644 62d 0 2 644 62e 0 2 644 645 0 2 644 649 0 2 644 64a 0 2 645 62c 0 2 645 62d 0 2",
   "645 62e 0 2 645 645 0 2 645 649 0 2 645 64a 0 2 646 62c 0 2 646 62d 0 2 646 62e 0 2 646 645 0",
   "2 646 649 0 2 646 64a 0 2 647 62c 0 2 647 645 0 2 647 649 0 2 647 64a 0 2 64a 62c 0 2 64a 62d",
   "0 2 64a 62e 0 2 64a 645 0 2 64a 649 0 2 64a 64a 0 2 630 670 0 2 631 670 0 2 649 670 0 3 20 64c",
   "651 0 3 20 64d 651 0 3 20 64e 651 0 3 20 64f 651 0 3 20 650 651 0 3 20 651 670 0 3 64a 654 631",
   "0 3 64a 654 632 0 3 64a 654 645 0 3 64a 654 646 0 3 64a 654 649 0 3 64a 654 64a 0 2 628 631 0",
   "2 628 632 0 2 628 645 0 2 628 646 0 2 628 649 0 2 628 64a 0 2 62a 631 0 2 62a 632 0 2 62a 645",
   "0 2 62a 646 0 2 62a 649 0 2 62a 64a 0 2 62b 631 0 2 62b 632 0 2 62b 645 0 2 62b 646 0 2 62b",
   "649 0 2 62b 64a 0 2 641 649 0 2 641 64a 0 2 642 649 0 2 642 64a 0 2 643 627 0 2 643 644 0 2",
   "643 645 0 2 643 649 0 2 643 64a 0 2 644 645 0 2 644 649 0 2 644 64a 0 2 645 627 0 2 645 645 0",
   "2 646 631 0 2 646 632 0 2 646 645 0 2 646 646 0 2 646 649 0 2 646 64a 0 2 649 670 0 2 64a 631",
   "0 2 64a 632 0 2 64a 645 0 2 64a 646 0 2 64a 649 0 2 64a 64a 0 3 64a 654 62c 0 3 64a 654 62d 0",
   "3 64a 654 62e 0 3 64a 654 645 0 3 64a 654 647 0 2 628 62c 0 2 628 62d 0 2 628 62e 0 2 628 645",
   "0 2 628 647 0 2 62a 62c 0 2 62a 62d 0 2 62a 62e 0 2 62a 645 0 2 62a 647 0 2 62b 645 0 2 62c",
   "62d 0 2 62c 645 0 2 62d 62c 0 2 62d 645 0 2 62e 62c 0 2 62e 645 0 2 633 62c 0 2 633 62d 0 2",
   "633 62e 0 2 633 645 0 2 635 62d 0 2 635 62e 0 2 635 645 0 2 636 62c 0 2 636 62d 0 2 636 62e 0",
   "2 636 645 0 2 637 62d 0 2 638 645 0 2 639 62c 0 2 639 645 0 2 63a 62c 0 2 63a 645 0 2 641 62c",
   "0 2 641 62d 0 2 641 62e 0 2 641 645 0 2 642 62d 0 2 642 645 0 2 643 62c 0 2 643 62d 0 2 643",
   "62e 0 2 643 644 0 2 643 645 0 2 644 62c 0 2 644 62d 0 2 644 62e 0 2 644 645 0 2 644 647 0 2",
   "645 62c 0 2 645 62d 0 2 645 62e 0 2 645 645 0 2 646 62c 0 2 646 62d 0 2 646 62e 0 2 646 645 0",
   "2 646 647 0 2 647 62c 0 2 647 645 0 2 647 670 0 2 64a 62c 0 2 64a 62d 0 2 64a 62e 0 2 64a 645",
   "0 2 64a 647 0 3 64a 654 645 0 3 64a 654 647 0 2 628 645 0 2 628 647 0 2 62a 645 0 2 62a 647 0",
   "2 62b 645 0 2 62b 647 0 2 633 645 0 2 633 647 0 2 634 645 0 2 634 647 0 2 643 644 0 2 643 645",
   "0 2 644 645 0 2 646 645 0 2 646 647 0 2 64a 645 0 2 64a 647 0 3 640 64e 651 0 3 640 64f 651 0",
   "3 640 650 651 0 2 637 649 0 2 637 64a 0 2 639 649 0 2 639 64a 0 2 63a 649 0 2 63a 64a 0 2 633",
   "649 0 2 633 64a 0 2 634 649 0 2 634 64a 0 2 62d 649 0 2 62d 64a 0 2 62c 649 0 2 62c 64a 0 2",
   "62e 649 0 2 62e 64a 0 2 635 649 0 2 635 64a 0 2 636 649 0 2 636 64a 0 2 634 62c 0 2 634 62d 0",
   "2 634 62e 0 2 634 645 0 2 634 631 0 2 633 631 0 2 635 631 0 2 636 631 0 2 637 649 0 2 637 64a",
   "0 2 639 649 0 2 639 64a 0 2 63a 649 0 2 63a 64a 0 2 633 649 0 2 633 64a 0 2 634 649 0 2 634",
   "64a 0 2 62d 649 0 2 62d 64a 0 2 62c 649 0 2 62c 64a 0 2 62e 649 0 2 62e 64a 0 2 635 649 0 2",
   "635 64a 0 2 636 649 0 2 636 64a 0 2 634 62c 0 2 634 62d 0 2 634 62e 0 2 634 645 0 2 634 631 0",
   "2 633 631 0 2 635 631 0 2 636 631 0 2 634 62c 0 2 634 62d 0 2 634 62e 0 2 634 645 0 2 633 647",
   "0 2 634 647 0 2 637 645 0 2 633 62c 0 2 633 62d 0 2 633 62e 0 2 634 62c 0 2 634 62d 0 2 634",
   "62e 0 2 637 645 0 2 638 645 0 2 627 64b 0 2 627 64b 12 3 62a 62c 645 0 3 62a 62d 62c 0 3 62a",
   "62d 62c 0 3 62a 62d 645 0 3 62a 62e 645 0 3 62a 645 62c 0 3 62a 645 62d 0 3 62a 645 62e 0 3",
   "62c 645 62d 0 3 62c 645 62d 0 3 62d 645 64a 0 3 62d 645 649 0 3 633 62d 62c 0 3 633 62c 62d 0",
   "3 633 62c 649 0 3 633 645 62d 0 3 633 645 62d 0 3 633 645 62c 0 3 633 645 645 0 3 633 645 645",
   "0 3 635 62d 62d 0 3 635 62d 62d 0 3 635 645 645 0 3 634 62d 645 0 3 634 62d 645 0 3 634 62c",
   "64a 0 3 634 645 62e 0 3 634 645 62e 0 3 634 645 645 0 3 634 645 645 0 3 636 62d 649 0 3 636",
   "62e 645 0 3 636 62e 645 0 3 637 645 62d 0 3 637 645 62d 0 3 637 645 645 0 3 637 645 64a 0 3",
   "639 62c 645 0 3 639 645 645 0 3 639 645 645 0 3 639 645 649 0 3 63a 645 645 0 3 63a 645 64a 0",
   "3 63a 645 649 0 3 641 62e 645 0 3 641 62e 645 0 3 642 645 62d 0 3 642 645 645 0 3 644 62d 645",
   "0 3 644 62d 64a 0 3 644 62d 649 0 3 644 62c 62c 0 3 644 62c 62c 0 3 644 62e 645 0 3 644 62e",
   "645 0 3 644 645 62d 0 3 644 645 62d 0 3 645 62d 62c 0 3 645 62d 645 0 3 645 62d 64a 0 3 645",
   "62c 62d 0 3 645 62c 645 0 3 645 62e 62c 0 3 645 62e 645 2 3 645 62c 62e 0 3 647 645 62c 0 3",
   "647 645 645 0 3 646 62d 645 0 3 646 62d 649 0 3 646 62c 645 0 3 646 62c 645 0 3 646 62c 649 0",
   "3 646 645 64a 0 3 646 645 649 0 3 64a 645 645 0 3 64a 645 645 0 3 628 62e 64a 0 3 62a 62c 64a",
   "0 3 62a 62c 649 0 3 62a 62e 64a 0 3 62a 62e 649 0 3 62a 645 64a 0 3 62a 645 649 0 3 62c 645",
   "64a 0 3 62c 62d 649 0 3 62c 645 649 0 3 633 62e 649 0 3 635 62d 64a 0 3 634 62d 64a 0 3 636",
   "62d 64a 0 3 644 62c 64a 0 3 644 645 64a 0 3 64a 62d 64a 0 3 64a 62c 64a 0 3 64a 645 64a 0 3",
   "645 645 64a 0 3 642 645 64a 0 3 646 62d 64a 0 3 642 645 62d 0 3 644 62d 645 0 3 639 645 64a 0",
   "3 643 645 64a 0 3 646 62c 62d 0 3 645 62e 64a 0 3 644 62c 645 0 3 643 645 645 0 3 644 62c 645",
   "0 3 646 62c 62d 0 3 62c 62d 64a 0 3 62d 62c 64a 0 3 645 62c 64a 0 3 641 645 64a 0 3 628 62d",
   "64a 0 3 643 645 645 0 3 639 62c 645 0 3 635 645 645 0 3 633 62e 64a 0 3 646 62c 64a 28 3 635",
   "644 6d2 0 3 642 644 6d2 0 4 627 644 644 647 0 4 627 643 628 631 0 4 645 62d 645 62f 0 4 635",
   "644 639 645 0 4 631 633 648 644 0 4 639 644 64a 647 0 4 648 633 644 645 0 3 635 644 649 0 12",
   "635 644 649 20 627 644 644 647 20 639 644 64a 647 20 648 633 644 645 0 8 62c 644 20 62c 644",
   "627 644 647 0 4 631 6cc 627 644 1c 3 2e 2e 2e 16 2 2e 2e 18 2 20 305 0 2 20 305 0 2 20 305 0 2",
   "20 305 23 2 20 64b 0 2 640 64b 0 2 20 64c 1 2 20 64d 1 2 20 64e 0 2 640 64e 0 2 20 64f 0 2 640",
   "64f 0 2 20 650 0 2 640 650 0 2 20 651 0 2 640 651 0 2 20 652 0 2 640 652 1 2 627 653 0 2 627",
   "653 0 2 627 654 0 2 627 654 0 2 648 654 0 2 648 654 0 2 627 655 0 2 627 655 0 2 64a 654 0 2",
   "64a 654 0 2 64a 654 0 2 64a 654 68 3 644 627 653 0 3 644 627 653 0 3 644 627 654 0 3 644 627",
   "654 0 3 644 627 655 0 3 644 627 655 0 2 644 627 0 2 644 627 e6 2 20 304 10b6 2 11099 110ba 1 2",
   "1109b 110ba e 2 110a5 110ba 82 2 11131 11127 0 2 11132 11127 21b 2 11347 1133e 0 2 11347 11357",
   "16e 2 114b9 114ba 0 2 114b9 114b0 1 2 114b9 114bd fb 2 115b8 115af 0 2 115b9 115af 37c 2 11935",
   "11930 b825 2 1d157 1d165 0 2 1d158 1d165 0 3 1d158 1d165 1d16e 0 3 1d158 1d165 1d16f 0 3 1d158",
   "1d165 1d170 0 3 1d158 1d165 1d171 0 3 1d158 1d165 1d172 56 2 1d1b9 1d165 0 2 1d1ba 1d165 0 3",
   "1d1b9 1d165 1d16e 0 3 1d1ba 1d165 1d16e 0 3 1d1b9 1d165 1d16f 0 3 1d1ba 1d165 1d16f 1f3f 2 30",
   "2e 0 2 30 2c 0 2 31 2c 0 2 32 2c 0 2 33 2c 0 2 34 2c 0 2 35 2c 0 2 36 2c 0 2 37 2c 0 2 38 2c 0",
   "2 39 2c 5 3 28 41 29 0 3 28 42 29 0 3 28 43 29 0 3 28 44 29 0 3 28 45 29 0 3 28 46 29 0 3 28",
   "47 29 0 3 28 48 29 0 3 28 49 29 0 3 28 4a 29 0 3 28 4b 29 0 3 28 4c 29 0 3 28 4d 29 0 3 28 4e",
   "29 0 3 28 4f 29 0 3 28 50 29 0 3 28 51 29 0 3 28 52 29 0 3 28 53 29 0 3 28 54 29 0 3 28 55 29",
   "0 3 28 56 29 0 3 28 57 29 0 3 28 58 29 0 3 28 59 29 0 3 28 5a 29 0 3 3014 53 3015 2 2 43 44 0",
   "2 57 5a 1b 2 48 56 0 2 4d 56 0 2 53 44 0 2 53 53 0 3 50 50 56 0 2 57 43 1a 2 4d 43 0 2 4d 44 0",
   "2 4d 52 23 2 44 4a 6f 2 307b 304b 0 2 30b3 30b3 11 2 30c6 3099 2c 3 3014 672c 3015 0 3 3014",
   "4e09 3015 0 3 3014 4e8c 3015 0 3 3014 5b89 3015 0 3 3014 70b9 3015 0 3 3014 6253 3015 0 3 3014",
   "76d7 3015 0 3 3014 52dd 3015 0 3 3014 6557 3015"]

/-- Characters with a canonical combining class other than zero. -/
def combiningClasses : String :=
  String.intercalate " "
  ["300 15 e6 0 1 e8 0 4 dc 0 1 e8 0 1 d8 0 5 dc 0 2 ca 0 4 dc 0 2 ca 0 b dc 0 5 1 0 4 dc 0 8 e6 0",
   "1 f0 0 1 e6 0 3 dc 0 3 e6 0 2 dc 1 3 e6 0 4 dc 0 1 e6 0 1 e8 0 2 dc 0 1 e6 0 1 e9 0 2 ea 0 1",
   "e9 0 2 ea 0 1 e9 0 d e6 113 5 e6 109 1 dc 0 4 e6 0 1 dc 0 3 e6 0 1 de 0 1 dc 0 6 e6 0 6 dc 0 2",
   "e6 0 1 dc 0 2 e6 0 1 de 0 1 e4 0 1 e6 0 1 a 0 1 b 0 1 c 0 1 d 0 1 e 0 1 f 0 1 10 0 1 11 0 1 12",
   "0 2 13 0 1 14 0 1 15 0 1 16 1 1 17 1 1 18 0 1 19 1 1 e6 0 1 dc 1 1 12 48 8 e6 0 1 1e 0 1 1f 0",
   "1 20 30 1 1b 0 1 1c 0 1 1d 0 1 1e 0 1 1f 0 1 20 0 1 21 0 1 22 0 2 e6 0 2 dc 0 5 e6 0 1 dc 0 2",
   "e6 0 1 dc 10 1 23 65 7 e6 2 4 e6 0 1 dc 0 1 e6 2 2 e6 1 1 dc 0 2 e6 0 1 dc 23 1 24 1e 1 e6 0 1",
   "dc 0 2 e6 0 1 dc 0 2 e6 0 3 dc 0 1 e6 0 2 dc 0 1 e6 0 1 dc 0 3 e6 0 1 dc 0 1 e6 0 1 dc 0 1 e6",
   "0 1 dc 0 1 e6 0 1 dc 0 2 e6 a0 7 e6 0 1 dc 0 1 e6 9 1 dc 18 4 e6 1 9 e6 1 3 e6 1 5 e6 2b 3 dc",
   "3c 1 e6 0 3 dc 0 4 e6 2a 5 e6 0 5 dc 0 e e6 1 1 dc 0 2 e6 0 1 dc 0 2 e6 0 1 dc 0 3 e6 0 3 dc 0",
   "1 1b 0 1 1c 0 1 1d 0 3 e6 0 1 dc 0 2 e6 0 2 dc 0 5 e6 3c 1 7 10 1 9 3 1 e6 0 1 dc 0 2 e6 67 1",
   "7 10 1 9 30 1 e6 3d 1 7 10 1 9 6e 1 7 10 1 9 6e 1 7 10 1 9 7f 1 9 6e 1 7 10 1 9 7 1 54 0 1 5b",
   "65 1 7 10 1 9 6d 2 9 10 1 9 7c 1 9 6d 2 67 0 1 9 d 4 6b 6c 2 76 0 1 9 d 4 7a 4c 2 dc 1b 1 dc 1",
   "1 dc 1 1 d8 37 1 81 0 1 82 1 1 84 5 4 82 2 1 82 1 2 e6 0 1 9 1 2 e6 3e 1 dc 70 1 7 1 2 9 52 1",
   "dc 2cf 3 e6 3b4 2 9 1e 1 9 9d 1 9 a 1 e6 cb 1 e4 8f 1 de 0 1 e6 0 1 dc db 1 e6 0 1 dc 47 1 9",
   "14 8 e6 2 1 dc 30 5 e6 0 6 dc 0 2 e6 0 1 dc 1 2 dc 0 2 e6 0 2 dc 0 5 e6 0 1 dc 0 4 e6 65 1 7 f",
   "1 9 26 1 e6 0 1 dc 0 7 e6 36 2 9 3a 1 7 b 2 9 43 1 7 98 3 e6 1 1 1 0 5 dc 0 2 e6 0 4 dc 0 1 e6",
   "1 7 1 4 1 dc 6 1 e6 3 2 e6 c6 2 e6 0 1 dc 0 7 e6 0 1 dc 0 2 e6 0 1 ea 0 1 d6 0 1 dc 0 1 ca 0",
   "25 e6 0 1 e8 0 2 e4 0 1 dc 0 1 da 0 1 e6 0 1 e9 0 1 dc 0 1 e6 0 1 dc 2d0 2 e6 0 2 1 0 4 e6 0 3",
   "1 0 2 e6 4 1 e6 3 2 1 0 1 e6 0 1 dc 0 1 e6 0 2 1 0 4 dc 0 1 e6 bfe 3 e6 8d 1 9 60 20 e6 22a 1",
   "da 0 1 e4 0 1 e8 0 1 de 0 2 e0 69 2 8 75d4 1 e6 4 a e6 20 2 e6 50 2 e6 114 1 9 25 1 9 97 1 9",
   "1b 12 e6 39 3 dc 25 1 9 5f 1 7 c 1 9 ef 1 e6 1 2 e6 0 1 dc 2 2 e6 5 2 e6 1 1 e6 34 1 9 f6 1 9",
   "4f30 1 1a 301 7 e6 0 7 dc 0 2 e6 3cd 1 dc e2 1 dc 95 5 e6 692 1 dc 1 1 e6 28 1 e6 0 1 1 0 1 dc",
   "4 1 9 a5 1 e6 0 1 dc 23d 4 e6 183 2 e6 99 2 dc 0 3 e6 0 1 dc 0 1 e6 0 4 dc 31 1 e6 0 1 dc 0 1",
   "e6 0 1 dc c0 1 9 29 1 9 e 1 9 39 1 9 0 1 7 45 3 e6 30 2 9 3e 1 7 4c 1 9 9 1 7 6a 1 9 0 1 7 b2",
   "1 7 0 1 9 50 2 7 10 1 9 18 7 e6 3 5 e6 cd 1 9 3 1 7 17 1 e6 63 1 9 0 1 7 fb 1 9 0 1 7 7e 1 9",
   "76 1 9 0 1 7 73 1 9 10d 1 9 0 1 7 102 2 9 4 1 7 9c 1 9 53 1 9 12 1 9 51 1 9 1a5 1 9 102 1 7 1",
   "2 9 51 1 9 4d58 5 1 3b 7 e6 4b9 2 6 4cac 1 1 14c6 2 d8 0 3 1 3 1 e2 0 5 d8 8 8 dc 2 5 e6 0 2",
   "dc 1e 4 e6 94 3 e6 dbb 7 e6 1 11 e6 2 7 e6 1 2 e6 1 5 e6 105 7 e6 177 1 e6 3d 4 e6 5e0 7 dc 6d",
   "6 e6 0 1 7"]

/-- Pairs that compose to one character. -/
def compositions : String :=
  String.intercalate " "
  ["41 300 c0 41 301 c1 41 302 c2 41 303 c3 41 308 c4 41 30a c5 43 327 c7 45 300 c8 45 301 c9 45",
   "302 ca 45 308 cb 49 300 cc 49 301 cd 49 302 ce 49 308 cf 4e 303 d1 4f 300 d2 4f 301 d3 4f 302",
   "d4 4f 303 d5 4f 308 d6 55 300 d9 55 301 da 55 302 db 55 308 dc 59 301 dd 61 300 e0 61 301 e1",
   "61 302 e2 61 303 e3 61 308 e4 61 30a e5 63 327 e7 65 300 e8 65 301 e9 65 302 ea 65 308 eb 69",
   "300 ec 69 301 ed 69 302 ee 69 308 ef 6e 303 f1 6f 300 f2 6f 301 f3 6f 302 f4 6f 303 f5 6f 308",
   "f6 75 300 f9 75 301 fa 75 302 fb 75 308 fc 79 301 fd 79 308 ff 41 304 100 61 304 101 41 306",
   "102 61 306 103 41 328 104 61 328 105 43 301 106 63 301 107 43 302 108 63 302 109 43 307 10a 63",
   "307 10b 43 30c 10c 63 30c 10d 44 30c 10e 64 30c 10f 45 304 112 65 304 113 45 306 114 65 306",
   "115 45 307 116 65 307 117 45 328 118 65 328 119 45 30c 11a 65 30c 11b 47 302 11c 67 302 11d 47",
   "306 11e 67 306 11f 47 307 120 67 307 121 47 327 122 67 327 123 48 302 124 68 302 125 49 303",
   "128 69 303 129 49 304 12a 69 304 12b 49 306 12c 69 306 12d 49 328 12e 69 328 12f 49 307 130 4a",
   "302 134 6a 302 135 4b 327 136 6b 327 137 4c 301 139 6c 301 13a 4c 327 13b 6c 327 13c 4c 30c",
   "13d 6c 30c 13e 4e 301 143 6e 301 144 4e 327 145 6e 327 146 4e 30c 147 6e 30c 148 4f 304 14c 6f",
   "304 14d 4f 306 14e 6f 306 14f 4f 30b 150 6f 30b 151 52 301 154 72 301 155 52 327 156 72 327",
   "157 52 30c 158 72 30c 159 53 301 15a 73 301 15b 53 302 15c 73 302 15d 53 327 15e 73 327 15f 53",
   "30c 160 73 30c 161 54 327 162 74 327 163 54 30c 164 74 30c 165 55 303 168 75 303 169 55 304",
   "16a 75 304 16b 55 306 16c 75 306 16d 55 30a 16e 75 30a 16f 55 30b 170 75 30b 171 55 328 172 75",
   "328 173 57 302 174 77 302 175 59 302 176 79 302 177 59 308 178 5a 301 179 7a 301 17a 5a 307",
   "17b 7a 307 17c 5a 30c 17d 7a 30c 17e 4f 31b 1a0 6f 31b 1a1 55 31b 1af 75 31b 1b0 41 30c 1cd 61",
   "30c 1ce 49 30c 1cf 69 30c 1d0 4f 30c 1d1 6f 30c 1d2 55 30c 1d3 75 30c 1d4 dc 304 1d5 fc 304",
   "1d6 dc 301 1d7 fc 301 1d8 dc 30c 1d9 fc 30c 1da dc 300 1db fc 300 1dc c4 304 1de e4 304 1df",
   "226 304 1e0 227 304 1e1 c6 304 1e2 e6 304 1e3 47 30c 1e6 67 30c 1e7 4b 30c 1e8 6b 30c 1e9 4f",
   "328 1ea 6f 328 1eb 1ea 304 1ec 1eb 304 1ed 1b7 30c 1ee 292 30c 1ef 6a 30c 1f0 47 301 1f4 67",
   "301 1f5 4e 300 1f8 6e 300 1f9 c5 301 1fa e5 301 1fb c6 301 1fc e6 301 1fd d8 301 1fe f8 301",
   "1ff 41 30f 200 61 30f 201 41 311 202 61 311 203 45 30f 204 65 30f 205 45 311 206 65 311 207 49",
   "30f 208 69 30f 209 49 311 20a 69 311 20b 4f 30f 20c 6f 30f 20d 4f 311 20e 6f 311 20f 52 30f",
   "210 72 30f 211 52 311 212 72 311 213 55 30f 214 75 30f 215 55 311 216 75 311 217 53 326 218 73",
   "326 219 54 326 21a 74 326 21b 48 30c 21e 68 30c 21f 41 307 226 61 307 227 45 327 228 65 327",
   "229 d6 304 22a f6 304 22b d5 304 22c f5 304 22d 4f 307 22e 6f 307 22f 22e 304 230 22f 304 231",
   "59 304 232 79 304 233 a8 301 385 391 301 386 395 301 388 397 301 389 399 301 38a 39f 301 38c",
   "3a5 301 38e 3a9 301 38f 3ca 301 390 399 308 3aa 3a5 308 3ab 3b1 301 3ac 3b5 301 3ad 3b7 301",
   "3ae 3b9 301 3af 3cb 301 3b0 3b9 308 3ca 3c5 308 3cb 3bf 301 3cc 3c5 301 3cd 3c9 301 3ce 3d2",
   "301 3d3 3d2 308 3d4 415 300 400 415 308 401 413 301 403 406 308 407 41a 301 40c 418 300 40d",
   "423 306 40e 418 306 419 438 306 439 435 300 450 435 308 451 433 301 453 456 308 457 43a 301",
   "45c 438 300 45d 443 306 45e 474 30f 476 475 30f 477 416 306 4c1 436 306 4c2 410 306 4d0 430",
   "306 4d1 410 308 4d2 430 308 4d3 415 306 4d6 435 306 4d7 4d8 308 4da 4d9 308 4db 416 308 4dc",
   "436 308 4dd 417 308 4de 437 308 4df 418 304 4e2 438 304 4e3 418 308 4e4 438 308 4e5 41e 308",
   "4e6 43e 308 4e7 4e8 308 4ea 4e9 308 4eb 42d 308 4ec 44d 308 4ed 423 304 4ee 443 304 4ef 423",
   "308 4f0 443 308 4f1 423 30b 4f2 443 30b 4f3 427 308 4f4 447 308 4f5 42b 308 4f8 44b 308 4f9",
   "627 653 622 627 654 623 648 654 624 627 655 625 64a 654 626 6d5 654 6c0 6c1 654 6c2 6d2 654",
   "6d3 928 93c 929 930 93c 931 933 93c 934 9c7 9be 9cb 9c7 9d7 9cc b47 b56 b48 b47 b3e b4b b47",
   "b57 b4c b92 bd7 b94 bc6 bbe bca bc7 bbe bcb bc6 bd7 bcc c46 c56 c48 cbf cd5 cc0 cc6 cd5 cc7",
   "cc6 cd6 cc8 cc6 cc2 cca cca cd5 ccb d46 d3e d4a d47 d3e d4b d46 d57 d4c dd9 dca dda dd9 dcf",
   "ddc ddc dca ddd dd9 ddf dde 1025 102e 1026 1b05 1b35 1b06 1b07 1b35 1b08 1b09 1b35 1b0a 1b0b",
   "1b35 1b0c 1b0d 1b35 1b0e 1b11 1b35 1b12 1b3a 1b35 1b3b 1b3c 1b35 1b3d 1b3e 1b35 1b40 1b3f 1b35",
   "1b41 1b42 1b35 1b43 41 325 1e00 61 325 1e01 42 307 1e02 62 307 1e03 42 323 1e04 62 323 1e05 42",
   "331 1e06 62 331 1e07 c7 301 1e08 e7 301 1e09 44 307 1e0a 64 307 1e0b 44 323 1e0c 64 323 1e0d",
   "44 331 1e0e 64 331 1e0f 44 327 1e10 64 327 1e11 44 32d 1e12 64 32d 1e13 112 300 1e14 113 300",
   "1e15 112 301 1e16 113 301 1e17 45 32d 1e18 65 32d 1e19 45 330 1e1a 65 330 1e1b 228 306 1e1c",
   "229 306 1e1d 46 307 1e1e 66 307 1e1f 47 304 1e20 67 304 1e21 48 307 1e22 68 307 1e23 48 323",
   "1e24 68 323 1e25 48 308 1e26 68 308 1e27 48 327 1e28 68 327 1e29 48 32e 1e2a 68 32e 1e2b 49",
   "330 1e2c 69 330 1e2d cf 301 1e2e ef 301 1e2f 4b 301 1e30 6b 301 1e31 4b 323 1e32 6b 323 1e33",
   "4b 331 1e34 6b 331 1e35 4c 323 1e36 6c 323 1e37 1e36 304 1e38 1e37 304 1e39 4c 331 1e3a 6c 331",
   "1e3b 4c 32d 1e3c 6c 32d 1e3d 4d 301 1e3e 6d 301 1e3f 4d 307 1e40 6d 307 1e41 4d 323 1e42 6d",
   "323 1e43 4e 307 1e44 6e 307 1e45 4e 323 1e46 6e 323 1e47 4e 331 1e48 6e 331 1e49 4e 32d 1e4a",
   "6e 32d 1e4b d5 301 1e4c f5 301 1e4d d5 308 1e4e f5 308 1e4f 14c 300 1e50 14d 300 1e51 14c 301",
   "1e52 14d 301 1e53 50 301 1e54 70 301 1e55 50 307 1e56 70 307 1e57 52 307 1e58 72 307 1e59 52",
   "323 1e5a 72 323 1e5b 1e5a 304 1e5c 1e5b 304 1e5d 52 331 1e5e 72 331 1e5f 53 307 1e60 73 307",
   "1e61 53 323 1e62 73 323 1e63 15a 307 1e64 15b 307 1e65 160 307 1e66 161 307 1e67 1e62 307 1e68",
   "1e63 307 1e69 54 307 1e6a 74 307 1e6b 54 323 1e6c 74 323 1e6d 54 331 1e6e 74 331 1e6f 54 32d",
   "1e70 74 32d 1e71 55 324 1e72 75 324 1e73 55 330 1e74 75 330 1e75 55 32d 1e76 75 32d 1e77 168",
   "301 1e78 169 301 1e79 16a 308 1e7a 16b 308 1e7b 56 303 1e7c 76 303 1e7d 56 323 1e7e 76 323",
   "1e7f 57 300 1e80 77 300 1e81 57 301 1e82 77 301 1e83 57 308 1e84 77 308 1e85 57 307 1e86 77",
   "307 1e87 57 323 1e88 77 323 1e89 58 307 1e8a 78 307 1e8b 58 308 1e8c 78 308 1e8d 59 307 1e8e",
   "79 307 1e8f 5a 302 1e90 7a 302 1e91 5a 323 1e92 7a 323 1e93 5a 331 1e94 7a 331 1e95 68 331",
   "1e96 74 308 1e97 77 30a 1e98 79 30a 1e99 17f 307 1e9b 41 323 1ea0 61 323 1ea1 41 309 1ea2 61",
   "309 1ea3 c2 301 1ea4 e2 301 1ea5 c2 300 1ea6 e2 300 1ea7 c2 309 1ea8 e2 309 1ea9 c2 303 1eaa",
   "e2 303 1eab 1ea0 302 1eac 1ea1 302 1ead 102 301 1eae 103 301 1eaf 102 300 1eb0 103 300 1eb1",
   "102 309 1eb2 103 309 1eb3 102 303 1eb4 103 303 1eb5 1ea0 306 1eb6 1ea1 306 1eb7 45 323 1eb8 65",
   "323 1eb9 45 309 1eba 65 309 1ebb 45 303 1ebc 65 303 1ebd ca 301 1ebe ea 301 1ebf ca 300 1ec0",
   "ea 300 1ec1 ca 309 1ec2 ea 309 1ec3 ca 303 1ec4 ea 303 1ec5 1eb8 302 1ec6 1eb9 302 1ec7 49 309",
   "1ec8 69 309 1ec9 49 323 1eca 69 323 1ecb 4f 323 1ecc 6f 323 1ecd 4f 309 1ece 6f 309 1ecf d4",
   "301 1ed0 f4 301 1ed1 d4 300 1ed2 f4 300 1ed3 d4 309 1ed4 f4 309 1ed5 d4 303 1ed6 f4 303 1ed7",
   "1ecc 302 1ed8 1ecd 302 1ed9 1a0 301 1eda 1a1 301 1edb 1a0 300 1edc 1a1 300 1edd 1a0 309 1ede",
   "1a1 309 1edf 1a0 303 1ee0 1a1 303 1ee1 1a0 323 1ee2 1a1 323 1ee3 55 323 1ee4 75 323 1ee5 55",
   "309 1ee6 75 309 1ee7 1af 301 1ee8 1b0 301 1ee9 1af 300 1eea 1b0 300 1eeb 1af 309 1eec 1b0 309",
   "1eed 1af 303 1eee 1b0 303 1eef 1af 323 1ef0 1b0 323 1ef1 59 300 1ef2 79 300 1ef3 59 323 1ef4",
   "79 323 1ef5 59 309 1ef6 79 309 1ef7 59 303 1ef8 79 303 1ef9 3b1 313 1f00 3b1 314 1f01 1f00 300",
   "1f02 1f01 300 1f03 1f00 301 1f04 1f01 301 1f05 1f00 342 1f06 1f01 342 1f07 391 313 1f08 391",
   "314 1f09 1f08 300 1f0a 1f09 300 1f0b 1f08 301 1f0c 1f09 301 1f0d 1f08 342 1f0e 1f09 342 1f0f",
   "3b5 313 1f10 3b5 314 1f11 1f10 300 1f12 1f11 300 1f13 1f10 301 1f14 1f11 301 1f15 395 313 1f18",
   "395 314 1f19 1f18 300 1f1a 1f19 300 1f1b 1f18 301 1f1c 1f19 301 1f1d 3b7 313 1f20 3b7 314 1f21",
   "1f20 300 1f22 1f21 300 1f23 1f20 301 1f24 1f21 301 1f25 1f20 342 1f26 1f21 342 1f27 397 313",
   "1f28 397 314 1f29 1f28 300 1f2a 1f29 300 1f2b 1f28 301 1f2c 1f29 301 1f2d 1f28 342 1f2e 1f29",
   "342 1f2f 3b9 313 1f30 3b9 314 1f31 1f30 300 1f32 1f31 300 1f33 1f30 301 1f34 1f31 301 1f35",
   "1f30 342 1f36 1f31 342 1f37 399 313 1f38 399 314 1f39 1f38 300 1f3a 1f39 300 1f3b 1f38 301",
   "1f3c 1f39 301 1f3d 1f38 342 1f3e 1f39 342 1f3f 3bf 313 1f40 3bf 314 1f41 1f40 300 1f42 1f41",
   "300 1f43 1f40 301 1f44 1f41 301 1f45 39f 313 1f48 39f 314 1f49 1f48 300 1f4a 1f49 300 1f4b",
   "1f48 301 1f4c 1f49 301 1f4d 3c5 313 1f50 3c5 314 1f51 1f50 300 1f52 1f51 300 1f53 1f50 301",
   "1f54 1f51 301 1f55 1f50 342 1f56 1f51 342 1f57 3a5 314 1f59 1f59 300 1f5b 1f59 301 1f5d 1f59",
   "342 1f5f 3c9 313 1f60 3c9 314 1f61 1f60 300 1f62 1f61 300 1f63 1f60 301 1f64 1f61 301 1f65",
   "1f60 342 1f66 1f61 342 1f67 3a9 313 1f68 3a9 314 1f69 1f68 300 1f6a 1f69 300 1f6b 1f68 301",
   "1f6c 1f69 301 1f6d 1f68 342 1f6e 1f69 342 1f6f 3b1 300 1f70 3b5 300 1f72 3b7 300 1f74 3b9 300",
   "1f76 3bf 300 1f78 3c5 300 1f7a 3c9 300 1f7c 1f00 345 1f80 1f01 345 1f81 1f02 345 1f82 1f03 345",
   "1f83 1f04 345 1f84 1f05 345 1f85 1f06 345 1f86 1f07 345 1f87 1f08 345 1f88 1f09 345 1f89 1f0a",
   "345 1f8a 1f0b 345 1f8b 1f0c 345 1f8c 1f0d 345 1f8d 1f0e 345 1f8e 1f0f 345 1f8f 1f20 345 1f90",
   "1f21 345 1f91 1f22 345 1f92 1f23 345 1f93 1f24 345 1f94 1f25 345 1f95 1f26 345 1f96 1f27 345",
   "1f97 1f28 345 1f98 1f29 345 1f99 1f2a 345 1f9a 1f2b 345 1f9b 1f2c 345 1f9c 1f2d 345 1f9d 1f2e",
   "345 1f9e 1f2f 345 1f9f 1f60 345 1fa0 1f61 345 1fa1 1f62 345 1fa2 1f63 345 1fa3 1f64 345 1fa4",
   "1f65 345 1fa5 1f66 345 1fa6 1f67 345 1fa7 1f68 345 1fa8 1f69 345 1fa9 1f6a 345 1faa 1f6b 345",
   "1fab 1f6c 345 1fac 1f6d 345 1fad 1f6e 345 1fae 1f6f 345 1faf 3b1 306 1fb0 3b1 304 1fb1 1f70",
   "345 1fb2 3b1 345 1fb3 3ac 345 1fb4 3b1 342 1fb6 1fb6 345 1fb7 391 306 1fb8 391 304 1fb9 391",
   "300 1fba 391 345 1fbc a8 342 1fc1 1f74 345 1fc2 3b7 345 1fc3 3ae 345 1fc4 3b7 342 1fc6 1fc6",
   "345 1fc7 395 300 1fc8 397 300 1fca 397 345 1fcc 1fbf 300 1fcd 1fbf 301 1fce 1fbf 342 1fcf 3b9",
   "306 1fd0 3b9 304 1fd1 3ca 300 1fd2 3b9 342 1fd6 3ca 342 1fd7 399 306 1fd8 399 304 1fd9 399 300",
   "1fda 1ffe 300 1fdd 1ffe 301 1fde 1ffe 342 1fdf 3c5 306 1fe0 3c5 304 1fe1 3cb 300 1fe2 3c1 313",
   "1fe4 3c1 314 1fe5 3c5 342 1fe6 3cb 342 1fe7 3a5 306 1fe8 3a5 304 1fe9 3a5 300 1fea 3a1 314",
   "1fec a8 300 1fed 1f7c 345 1ff2 3c9 345 1ff3 3ce 345 1ff4 3c9 342 1ff6 1ff6 345 1ff7 39f 300",
   "1ff8 3a9 300 1ffa 3a9 345 1ffc 2190 338 219a 2192 338 219b 2194 338 21ae 21d0 338 21cd 21d4",
   "338 21ce 21d2 338 21cf 2203 338 2204 2208 338 2209 220b 338 220c 2223 338 2224 2225 338 2226",
   "223c 338 2241 2243 338 2244 2245 338 2247 2248 338 2249 3d 338 2260 2261 338 2262 224d 338",
   "226d 3c 338 226e 3e 338 226f 2264 338 2270 2265 338 2271 2272 338 2274 2273 338 2275 2276 338",
   "2278 2277 338 2279 227a 338 2280 227b 338 2281 2282 338 2284 2283 338 2285 2286 338 2288 2287",
   "338 2289 22a2 338 22ac 22a8 338 22ad 22a9 338 22ae 22ab 338 22af 227c 338 22e0 227d 338 22e1",
   "2291 338 22e2 2292 338 22e3 22b2 338 22ea 22b3 338 22eb 22b4 338 22ec 22b5 338 22ed 304b 3099",
   "304c 304d 3099 304e 304f 3099 3050 3051 3099 3052 3053 3099 3054 3055 3099 3056 3057 3099 3058",
   "3059 3099 305a 305b 3099 305c 305d 3099 305e 305f 3099 3060 3061 3099 3062 3064 3099 3065 3066",
   "3099 3067 3068 3099 3069 306f 3099 3070 306f 309a 3071 3072 3099 3073 3072 309a 3074 3075 3099",
   "3076 3075 309a 3077 3078 3099 3079 3078 309a 307a 307b 3099 307c 307b 309a 307d 3046 3099 3094",
   "309d 3099 309e 30ab 3099 30ac 30ad 3099 30ae 30af 3099 30b0 30b1 3099 30b2 30b3 3099 30b4 30b5",
   "3099 30b6 30b7 3099 30b8 30b9 3099 30ba 30bb 3099 30bc 30bd 3099 30be 30bf 3099 30c0 30c1 3099",
   "30c2 30c4 3099 30c5 30c6 3099 30c7 30c8 3099 30c9 30cf 3099 30d0 30cf 309a 30d1 30d2 3099 30d3",
   "30d2 309a 30d4 30d5 3099 30d6 30d5 309a 30d7 30d8 3099 30d9 30d8 309a 30da 30db 3099 30dc 30db",
   "309a 30dd 30a6 3099 30f4 30ef 3099 30f7 30f0 3099 30f8 30f1 3099 30f9 30f2 3099 30fa 30fd 3099",
   "30fe 11099 110ba 1109a 1109b 110ba 1109c 110a5 110ba 110ab 11131 11127 1112e 11132 11127 1112f",
   "11347 1133e 1134b 11347 11357 1134c 114b9 114ba 114bb 114b9 114b0 114bc 114b9 114bd 114be",
   "115b8 115af 115ba 115b9 115af 115bb 11935 11930 11938"]

end TransactionRules.Normalization
