import GeneticRepair.Text.Composite
/-!
# Compatible characters

The characters of names that are mere variants of others, such as ligatures and the letters of full
width, each with the text that it stands for, fully taken apart (Unicode 14). A row of the table
begins with a code point in hexadecimal digits, and goes on with what that code point and those that
follow it stand for. A word with a star and a count names as many characters in a row, each of which
stands for the next one.
-/

namespace GeneticRepair.Text

def compatibleRows : List String := [
    "aa 61", "b5 3bc", "ba 6f", "132 49+4a 69+6a", "13f 4c+b7 6c+b7", "149 2bc+6e", "17f 73",
    "1c4 44+5a+30c 44+7a+30c 64+7a+30c 4c+4a 4c+6a 6c+6a 4e+4a 4e+6a 6e+6a",
    "1f1 44+5a 44+7a 64+7a", "2b0 68 266 6a 72 279 27b 281 77 79", "2e0 263 6c 73 78 295",
    "340 300 301", "343 313 308+301", "374 2b9", "387 b7", "3d0 3b2 3b8 3a5", "3d5 3c6 3c0",
    "3f0 3ba 3c1 3c2", "3f4 398 3b5", "3f9 3a3", "587 565+582",
    "675 627+674 648+674 6c7+674 64a+674",
    "958 915+93c 916+93c 917+93c 91c+93c 921+93c 922+93c 92b+93c 92f+93c", "9dc 9a1+9bc 9a2+9bc",
    "9df 9af+9bc", "a33 a32+a3c", "a36 a38+a3c", "a59 a16+a3c a17+a3c a1c+a3c", "a5e a2b+a3c",
    "b5c b21+b3c b22+b3c", "e33 e4d+e32", "eb3 ecd+eb2", "edc eab+e99 eab+ea1", "f43 f42+fb7",
    "f4d f4c+fb7", "f52 f51+fb7", "f57 f56+fb7", "f5c f5b+fb7", "f69 f40+fb5", "f73 f71+f72",
    "f75 f71+f74 fb2+f80 fb2+f71+f80 fb3+f80 fb3+f71+f80", "f81 f71+f80", "f93 f92+fb7",
    "f9d f9c+fb7", "fa2 fa1+fb7", "fa7 fa6+fb7", "fac fab+fb7", "fb9 f90+fb5", "10fc 10dc",
    "1d2c 41 c6 42", "1d30 44 45 18e 47*8",
    "1d3c 4f 222 50 52 54 55 57 61 250 251 1d02 62 64 65 259 25b 25c 67",
    "1d4f 6b 6d 14b 6f 254 1d16 1d17 70 74 75 1d1d 26f 76 1d25 3b2*3 3c6 3c7 69 72 75 76",
    "1d66 3b2 3b3 3c1 3c6 3c7", "1d78 43d",
    "1d9b 252 63 255 f0 25c 66 25f 261 265 268*3 1d7b 29d 26d 1d85 29f 271 270 272*4 278",
    "1db3 282 283 1ab 289 28a 1d1c 28b 28c 7a 290*3 3b8", "1e9a 61+2be", "1f71 3b1+301",
    "1f73 3b5+301", "1f75 3b7+301", "1f77 3b9+301", "1f79 3bf+301", "1f7b 3c5+301", "1f7d 3c9+301",
    "1fbb 391+301", "1fbe 3b9", "1fc9 395+301", "1fcb 397+301", "1fd3 3b9+308+301", "1fdb 399+301",
    "1fe3 3c5+308+301", "1feb 3a5+301", "1ff9 39f+301", "1ffb 3a9+301", "2071 69", "207f 6e",
    "2090 61 65 6f 78 259 68 6b*4 70 73 74", "2102 43", "2107 190",
    "210a 67 48 48 48 68 127 49 49 4c 6c", "2115 4e", "2119 50*3 52 52", "2124 5a", "2126 3a9",
    "2128 5a", "212a 4b 41+30a 42 43", "212f 65 45 46", "2133 4d 6f 5d0*4 69",
    "213c 3c0 3b3 393 3a0", "2145 44 64 65 69 6a",
    "2160 49 49+49 49+49+49 49+56 56 56+49 56+49+49 56+49+49+49 49+58 58 58+49 58+49+49 4c",
    "216d 43 44 4d 69 69+69 69+69+69 69+76 76 76+69 76+69+69 76+69+69+69 69+78 78 78+69",
    "217b 78+69+69 6c 63 64 6d", "2c7c 6a 56", "2d6f 2d61", "3038 5341 5344 5345",
    "309f 3088+308a", "30ff 30b3+30c8",
    "3131 1100 1101 11aa 1102 11ac 11ad 1103*3 11b0*6 111a 1106*3 1121 1109*a 1161*15 1160",
    "3165 1114 1115 11c7 11c8 11cc 11ce 11d3 11d7 11d9 111c 11dd 11df 111d 111e 1120 1122",
    "3175 1123 1127 1129 112b*5 1132 1136 1140 1147 114c 11f1 11f2 1157*3 1184 1185 1188",
    "318a 1191 1192 1194 119e 11a1", "a69c 44a 44c", "a770 a76f", "a7f2 43 46 51", "a7f8 126 153",
    "ab5c a727 ab37 26b ab52", "ab69 28d",
    "f900 8c48 66f4 8eca 8cc8 6ed1 4e32 53e5 9f9c 9f9c 5951 91d1 5587 5948 61f6 7669 7f85",
    "f910 863f 87ba 88f8 908f 6a02 6d1b 70d9 73de 843d 916a 99f1 4e82 5375 6b04 721b 862d",
    "f920 9e1e 5d50 6feb 85cd 8964 62c9 81d8 881f 5eca 6717 6d6a 72fc 90ce 4f86 51b7 52de",
    "f930 64c4 6ad3 7210 76e7 8001 8606 865c 8def 9732 9b6f 9dfa 788c 797f 7da0 83c9 9304",
    "f940 9e7f 8ad6 58df 5f04 7c60 807e 7262 78ca 8cc2 96f7 58d8 5c62 6a13 6dda 6f0f 7d2f",
    "f950 7e37 964b 52d2 808b 51dc 51cc 7a1c 7dbe 83f1 9675 8b80 62cf 6a02 8afe 4e39 5be7",
    "f960 6012 7387 7570 5317 78fb 4fbf 5fa9 4e0d 6ccc 6578 7d22 53c3 585e 7701 8449 8aaa",
    "f970 6bba 8fb0 6c88 62fe 82e5 63a0 7565 4eae 5169 51c9 6881 7ce7 826f 8ad2 91cf 52f5",
    "f980 5442 5973 5eec 65c5 6ffe 792a 95ad 9a6a 9e97 9ece 529b 66c6 6b77 8f62 5e74 6190",
    "f990 6200 649a 6f23 7149 7489 79ca 7df4 806f 8f26 84ee 9023 934a 5217 52a3 54bd 70c8",
    "f9a0 88c2 8aaa 5ec9 5ff5 637b 6bae 7c3e 7375 4ee4 56f9 5be7 5dba 601c 73b2 7469 7f9a",
    "f9b0 8046 9234 96f6 9748 9818 4f8b 79ae 91b4 96b8 60e1 4e86 50da 5bee 5c3f 6599 6a02",
    "f9c0 71ce 7642 84fc 907c 9f8d 6688 962e 5289 677b 67f3 6d41 6e9c 7409 7559 786b 7d10",
    "f9d0 985e 516d 622e 9678 502b 5d19 6dea 8f2a 5f8b 6144 6817 7387 9686 5229 540f 5c65",
    "f9e0 6613 674e 68a8 6ce5 7406 75e2 7f79 88cf 88e1 91cc 96e2 533f 6eba 541d 71d0 7498",
    "f9f0 85fa 96a3 9c57 9e9f 6797 6dcb 81e8 7acb 7b20 7c92 72c0 7099 8b58 4ec0 8336 523a",
    "fa00 5207 5ea6 62d3 7cd6 5b85 6d1e 66b4 8f3b 884c 964d 898b 5ed3 5140 55c0", "fa10 585a",
    "fa12 6674", "fa15 51de 732a 76ca 793c 795e 7965 798f 9756 7cbe 7fbd", "fa20 8612",
    "fa22 8af8", "fa25 9038 90fd",
    "fa2a 98ef 98fc 9928 9db4 90de 96b7 4fae 50e7 514d 52c9 52e4 5351 559d 5606 5668 5840",
    "fa3a 58a8 5c64 5c6e 6094 6168 618e 61f2 654f 65e2 6691 6885 6d77 6e1a 6f22 716e 722b",
    "fa4a 7422 7891 793e 7949 7948 7950 7956 795d 798d 798e 7a40 7a81 7bc0 7df4 7e09 7e41",
    "fa5a 7f72 8005 81ed 8279 8279 8457 8910 8996 8b01 8b39 8cd3 8d08 8fb6 9038 96e3 97ff",
    "fa6a 983b 6075 242ee 8218",
    "fa70 4e26 51b5 5168 4f80 5145 5180 52c7 52fa 559d 5555 5599 55e2 585a 58b3 5944 5954",
    "fa80 5a62 5b28 5ed2 5ed9 5f69 5fad 60d8 614e 6108 618e 6160 61f2 6234 63c4 641c 6452",
    "fa90 6556 6674 6717 671b 6756 6b79 6bba 6d41 6edb 6ecb 6f22 701e 716e 77a7 7235 72af",
    "faa0 732a 7471 7506 753b 761d 761f 76ca 76db 76f4 774a 7740 78cc 7ab1 7bc0 7c7b 7d5b",
    "fab0 7df4 7f3e 8005 8352 83ef 8779 8941 8986 8996 8abf 8af8 8acb 8b01 8afe 8aed 8b39",
    "fac0 8b8a 8d08 8f38 9072 9199 9276 967c 96e3 9756 97db 97ff 980b 983b 9b12 9f9c 2284a",
    "fad0 22844 233d5 3b9d 4018 4039 25249 25cd0 27ed3 9f43 9f8e",
    "fb00 66+66 66+69 66+6c 66+66+69 66+66+6c 73+74 73+74",
    "fb13 574+576 574+565 574+56b 57e+576 574+56d", "fb1d 5d9+5b4",
    "fb1f 5f2+5b7 5e2 5d0 5d3 5d4 5db*3 5e8 5ea",
    "fb2a 5e9+5c1 5e9+5c2 5e9+5bc+5c1 5e9+5bc+5c2 5d0+5b7 5d0+5b8 5d0+5bc 5d1+5bc 5d2+5bc",
    "fb33 5d3+5bc 5d4+5bc 5d5+5bc 5d6+5bc", "fb38 5d8+5bc 5d9+5bc 5da+5bc 5db+5bc 5dc+5bc",
    "fb3e 5de+5bc", "fb40 5e0+5bc 5e1+5bc", "fb43 5e3+5bc 5e4+5bc",
    "fb46 5e6+5bc 5e7+5bc 5e8+5bc 5e9+5bc 5ea+5bc 5d5+5b9 5d1+5bf 5db+5bf 5e4+5bf 5d0+5dc",
    "fb50 671 671 67b 67b 67b 67b 67e 67e 67e 67e 680 680 680 680 67a 67a 67a 67a 67f 67f",
    "fb64 67f 67f 679 679 679 679 6a4 6a4 6a4 6a4 6a6 6a6 6a6 6a6 684 684 684 684 683 683",
    "fb78 683 683 686 686 686 686 687 687 687 687 68d 68d 68c 68c 68e 68e 688 688 698 698",
    "fb8c 691 691 6a9 6a9 6a9 6a9 6af 6af 6af 6af 6b3 6b3 6b3 6b3 6b1 6b1 6b1 6b1 6ba 6ba",
    "fba0 6bb 6bb 6bb 6bb 6d5+654 6d5+654 6c1 6c1 6c1 6c1 6be 6be 6be 6be 6d2 6d2 6d2+654",
    "fbb1 6d2+654",
    "fbd3 6ad 6ad 6ad 6ad 6c7 6c7 6c6 6c6 6c8 6c8 6c7+674 6cb 6cb 6c5 6c5 6c9 6c9 6d0 6d0",
    "fbe6 6d0 6d0 649 649 64a+654+627 64a+654+627 64a+654+6d5 64a+654+6d5 64a+654+648",
    "fbef 64a+654+648 64a+654+6c7 64a+654+6c7 64a+654+6c6 64a+654+6c6 64a+654+6c8",
    "fbf5 64a+654+6c8 64a+654+6d0 64a+654+6d0 64a+654+6d0 64a+654+649 64a+654+649",
    "fbfb 64a+654+649 6cc 6cc 6cc 6cc 64a+654+62c 64a+654+62d 64a+654+645 64a+654+649",
    "fc04 64a+654+64a 628+62c 628+62d 628+62e 628+645 628+649 628+64a 62a+62c 62a+62d",
    "fc0d 62a+62e 62a+645 62a+649 62a+64a 62b+62c 62b+645 62b+649 62b+64a 62c+62d 62c+645",
    "fc17 62d+62c 62d+645 62e+62c 62e+62d 62e+645 633+62c 633+62d 633+62e 633+645 635+62d",
    "fc21 635+645 636+62c 636+62d 636+62e 636+645 637+62d 637+645 638+645 639+62c 639+645",
    "fc2b 63a+62c 63a+645 641+62c 641+62d 641+62e 641+645 641+649 641+64a 642+62d 642+645",
    "fc35 642+649 642+64a 643+627 643+62c 643+62d 643+62e 643+644 643+645 643+649 643+64a",
    "fc3f 644+62c 644+62d 644+62e 644+645 644+649 644+64a 645+62c 645+62d 645+62e 645+645",
    "fc49 645+649 645+64a 646+62c 646+62d 646+62e 646+645 646+649 646+64a 647+62c 647+645",
    "fc53 647+649 647+64a 64a+62c 64a+62d 64a+62e 64a+645 64a+649 64a+64a 630+670 631+670",
    "fc5d 649+670",
    "fc64 64a+654+631 64a+654+632 64a+654+645 64a+654+646 64a+654+649 64a+654+64a 628+631",
    "fc6b 628+632 628+645 628+646 628+649 628+64a 62a+631 62a+632 62a+645 62a+646 62a+649",
    "fc75 62a+64a 62b+631 62b+632 62b+645 62b+646 62b+649 62b+64a 641+649 641+64a 642+649",
    "fc7f 642+64a 643+627 643+644 643+645 643+649 643+64a 644+645 644+649 644+64a 645+627",
    "fc89 645+645 646+631 646+632 646+645 646+646 646+649 646+64a 649+670 64a+631 64a+632",
    "fc93 64a+645 64a+646 64a+649 64a+64a 64a+654+62c 64a+654+62d 64a+654+62e 64a+654+645",
    "fc9b 64a+654+647 628+62c 628+62d 628+62e 628+645 628+647 62a+62c 62a+62d 62a+62e",
    "fca4 62a+645 62a+647 62b+645 62c+62d 62c+645 62d+62c 62d+645 62e+62c 62e+645 633+62c",
    "fcae 633+62d 633+62e 633+645 635+62d 635+62e 635+645 636+62c 636+62d 636+62e 636+645",
    "fcb8 637+62d 638+645 639+62c 639+645 63a+62c 63a+645 641+62c 641+62d 641+62e 641+645",
    "fcc2 642+62d 642+645 643+62c 643+62d 643+62e 643+644 643+645 644+62c 644+62d 644+62e",
    "fccc 644+645 644+647 645+62c 645+62d 645+62e 645+645 646+62c 646+62d 646+62e 646+645",
    "fcd6 646+647 647+62c 647+645 647+670 64a+62c 64a+62d 64a+62e 64a+645 64a+647",
    "fcdf 64a+654+645 64a+654+647 628+645 628+647 62a+645 62a+647 62b+645 62b+647 633+645",
    "fce8 633+647 634+645 634+647 643+644 643+645 644+645 646+645 646+647 64a+645 64a+647",
    "fcf2 640+64e+651 640+64f+651 640+650+651 637+649 637+64a 639+649 639+64a 63a+649",
    "fcfa 63a+64a 633+649 633+64a 634+649 634+64a 62d+649 62d+64a 62c+649 62c+64a 62e+649",
    "fd04 62e+64a 635+649 635+64a 636+649 636+64a 634+62c 634+62d 634+62e 634+645 634+631",
    "fd0e 633+631 635+631 636+631 637+649 637+64a 639+649 639+64a 63a+649 63a+64a 633+649",
    "fd18 633+64a 634+649 634+64a 62d+649 62d+64a 62c+649 62c+64a 62e+649 62e+64a 635+649",
    "fd22 635+64a 636+649 636+64a 634+62c 634+62d 634+62e 634+645 634+631 633+631 635+631",
    "fd2c 636+631 634+62c 634+62d 634+62e 634+645 633+647 634+647 637+645 633+62c 633+62d",
    "fd36 633+62e 634+62c 634+62d 634+62e 637+645 638+645 627+64b 627+64b",
    "fd50 62a+62c+645 62a+62d+62c 62a+62d+62c 62a+62d+645 62a+62e+645 62a+645+62c",
    "fd56 62a+645+62d 62a+645+62e 62c+645+62d 62c+645+62d 62d+645+64a 62d+645+649",
    "fd5c 633+62d+62c 633+62c+62d 633+62c+649 633+645+62d 633+645+62d 633+645+62c",
    "fd62 633+645+645 633+645+645 635+62d+62d 635+62d+62d 635+645+645 634+62d+645",
    "fd68 634+62d+645 634+62c+64a 634+645+62e 634+645+62e 634+645+645 634+645+645",
    "fd6e 636+62d+649 636+62e+645 636+62e+645 637+645+62d 637+645+62d 637+645+645",
    "fd74 637+645+64a 639+62c+645 639+645+645 639+645+645 639+645+649 63a+645+645",
    "fd7a 63a+645+64a 63a+645+649 641+62e+645 641+62e+645 642+645+62d 642+645+645",
    "fd80 644+62d+645 644+62d+64a 644+62d+649 644+62c+62c 644+62c+62c 644+62e+645",
    "fd86 644+62e+645 644+645+62d 644+645+62d 645+62d+62c 645+62d+645 645+62d+64a",
    "fd8c 645+62c+62d 645+62c+645 645+62e+62c 645+62e+645",
    "fd92 645+62c+62e 647+645+62c 647+645+645 646+62d+645 646+62d+649 646+62c+645",
    "fd98 646+62c+645 646+62c+649 646+645+64a 646+645+649 64a+645+645 64a+645+645",
    "fd9e 628+62e+64a 62a+62c+64a 62a+62c+649 62a+62e+64a 62a+62e+649 62a+645+64a",
    "fda4 62a+645+649 62c+645+64a 62c+62d+649 62c+645+649 633+62e+649 635+62d+64a",
    "fdaa 634+62d+64a 636+62d+64a 644+62c+64a 644+645+64a 64a+62d+64a 64a+62c+64a",
    "fdb0 64a+645+64a 645+645+64a 642+645+64a 646+62d+64a 642+645+62d 644+62d+645",
    "fdb6 639+645+64a 643+645+64a 646+62c+62d 645+62e+64a 644+62c+645 643+645+645",
    "fdbc 644+62c+645 646+62c+62d 62c+62d+64a 62d+62c+64a 645+62c+64a 641+645+64a",
    "fdc2 628+62d+64a 643+645+645 639+62c+645 635+645+645 633+62e+64a 646+62c+64a",
    "fdf0 635+644+6d2 642+644+6d2 627+644+644+647 627+643+628+631 645+62d+645+62f",
    "fdf5 635+644+639+645 631+633+648+644 639+644+64a+647 648+633+644+645 635+644+649",
    "fe33 5f 5f", "fe4d 5f 5f 5f", "fe71 640+64b", "fe77 640+64e", "fe79 640+64f", "fe7b 640+650",
    "fe7d 640+651",
    "fe7f 640+652 621 627+653 627+653 627+654 627+654 648+654 648+654 627+655 627+655",
    "fe89 64a+654 64a+654 64a+654 64a+654 627 627 628 628 628 628 629 629 62a 62a 62a 62a",
    "fe99 62b 62b 62b 62b 62c 62c 62c 62c 62d 62d 62d 62d 62e 62e 62e 62e 62f 62f 630 630",
    "fead 631 631 632 632 633 633 633 633 634 634 634 634 635 635 635 635 636 636 636 636",
    "fec1 637 637 637 637 638 638 638 638 639 639 639 639 63a 63a 63a 63a 641 641 641 641",
    "fed5 642 642 642 642 643 643 643 643 644 644 644 644 645 645 645 645 646 646 646 646",
    "fee9 647 647 647 647 648 648 649 649 64a 64a 64a 64a 644+627+653 644+627+653",
    "fef7 644+627+654 644+627+654 644+627+655 644+627+655 644+627 644+627", "ff10 30*a",
    "ff21 41*1a", "ff3f 5f", "ff41 61*1a",
    "ff66 30f2 30a1 30a3 30a5 30a7 30a9 30e3 30e5 30e7 30c3 30fc 30a2 30a4 30a6 30a8 30aa",
    "ff76 30ab 30ad 30af 30b1 30b3 30b5 30b7 30b9 30bb 30bd 30bf 30c1 30c4 30c6 30c8 30ca*6",
    "ff8b 30d2 30d5 30d8 30db 30de*5 30e4 30e6 30e8*6 30ef 30f3 3099 309a 1160 1100 1101",
    "ffa3 11aa 1102 11ac 11ad 1103*3 11b0*6 111a 1106*3 1121 1109*a", "ffc2 1161*6", "ffca 1167*6",
    "ffd2 116d*6", "ffda 1173*3", "10781 2d0 2d1 e6 299 253",
    "10787 2a3 ab66 2a5 2a4 256 257 1d91 258 25e 2a9 264 262 260 29b 127 29c 267 284 2aa",
    "1079a 2ab 26c 1df04 a78e 26e 1df05 28e 1df06 f8 276 277 71 27a 1df08 27d 27e 280 2a8",
    "107ac 2a6 ab67 2a7 288 2c71", "107b2 28f 2a1 2a2 298 1c0*3 1df0a 1df1e",
    "1d400 41*1a 61*1a 41*1a 61*7", "1d456 69*12 41*1a 61*1a 41", "1d49e 43 44", "1d4a2 47",
    "1d4a5 4a 4b", "1d4a9 4e*4", "1d4ae 53*8 61*4", "1d4bb 66", "1d4bd 68*7",
    "1d4c5 70*b 41*1a 61*1a 41 42", "1d507 44*4", "1d50d 4a*8", "1d516 53*7", "1d51e 61*1a 41 42",
    "1d53b 44*4", "1d540 49*5", "1d546 4f", "1d54a 53*7",
    "1d552 61*1a 41*1a 61*1a 41*1a 61*1a 41*1a 61*1a 41*1a 61*1a 41*1a 61*1a 41*1a 61*1a",
    "1d6a4 131 237", "1d6a8 391*11 398 3a3*7", "1d6c2 3b1*19",
    "1d6dc 3b5 3b8 3ba 3c6 3c1 3c0 391*11 398 3a3*7", "1d6fc 3b1*19",
    "1d716 3b5 3b8 3ba 3c6 3c1 3c0 391*11 398 3a3*7", "1d736 3b1*19",
    "1d750 3b5 3b8 3ba 3c6 3c1 3c0 391*11 398 3a3*7", "1d770 3b1*19",
    "1d78a 3b5 3b8 3ba 3c6 3c1 3c0 391*11 398 3a3*7", "1d7aa 3b1*19",
    "1d7c4 3b5 3b8 3ba 3c6 3c1 3c0 3dc 3dd", "1d7ce 30*a 30*a 30*a 30*a 30*a",
    "1ee00 627 628 62c 62f",
    "1ee05 648 632 62d 637 64a 643*4 633 639 641 635 642 631 634 62a 62b 62e 630 636 638",
    "1ee1b 63a 66e 6ba 6a1 66f", "1ee21 628 62c", "1ee24 647", "1ee27 62d",
    "1ee29 64a 643*4 633 639 641 635 642", "1ee34 634 62a 62b 62e", "1ee39 636", "1ee3b 63a",
    "1ee42 62c", "1ee47 62d", "1ee49 64a", "1ee4b 644", "1ee4d 646 633 639", "1ee51 635 642",
    "1ee54 634", "1ee57 62e", "1ee59 636", "1ee5b 63a", "1ee5d 6ba", "1ee5f 66f", "1ee61 628 62c",
    "1ee64 647", "1ee67 62d 637 64a 643", "1ee6c 645 646 633 639 641 635 642",
    "1ee74 634 62a 62b 62e", "1ee79 636 638 63a 66e", "1ee7e 6a1",
    "1ee80 627 628 62c 62f 647 648 632 62d 637 64a",
    "1ee8b 644*3 633 639 641 635 642 631 634 62a 62b 62e 630 636 638 63a", "1eea1 628 62c 62f",
    "1eea5 648 632 62d 637 64a",
    "1eeab 644*3 633 639 641 635 642 631 634 62a 62b 62e 630 636 638 63a", "1fbf0 30*a",
    "2f800 4e3d 4e38 4e41 20122 4f60 4fae 4fbb 5002 507a 5099 50e7 50cf 349e 2063a 514d",
    "2f80f 5154 5164 5177 2051c 34b9 5167 518d 2054b 5197 51a4 4ecc 51ac 51b5 291df 51f5",
    "2f81e 5203 34df 523b 5246 5272 5277 3515 52c7 52c9 52e4 52fa 5305 5306 5317 5349 5351",
    "2f82e 535a 5373 537d 537f 537f 537f 20a2c 7070 53ca 53df 20b63 53eb 53f1 5406 549e",
    "2f83d 5438 5448 5468 54a2 54f6 5510 5553 5563 5584 5584 5599 55ab 55b3 55c2 5716 5606",
    "2f84d 5717 5651 5674 5207 58ee 57ce 57f4 580d 578b 5832 5831 58ac 214e4 58f2 58f7 5906",
    "2f85d 591a 5922 5962 216a8 216ea 59ec 5a1b 5a27 59d8 5a66 36ee 36fc 5b08 5b3e 5b3e",
    "2f86c 219c8 5bc3 5bd8 5be7 5bf3 21b18 5bff 5c06 5f53 5c22 3781 5c60 5c6e 5cc0 5c8d",
    "2f87b 21de4 5d43 21de6 5d6e 5d6b 5d7c 5de1 5de2 382f 5dfd 5e28 5e3d 5e69 3862 22183",
    "2f88a 387c 5eb0 5eb3 5eb6 5eca 2a392 5efe 22331 22331 8201 5f22 5f22 38c7 232b8 261da",
    "2f899 5f62 5f6b 38e3 5f9a 5fcd 5fd7 5ff9 6081 393a 391c 6094 226d4 60c7 6148 614c 614e",
    "2f8a9 614c 617a 618e 61b2 61a4 61af 61de 61f2 61f6 6210 621b 625d 62b1 62d4 6350 22b0c",
    "2f8b9 633d 62fc 6368 6383 63e4 22bf1 6422 63c5 63a9 3a2e 6469 647e 649d 6477 3a6c 654f",
    "2f8c9 656c 2300a 65e3 66f8 6649 3b19 6691 3b08 3ae4 5192 5195 6700 669c 80ad 43d9 6717",
    "2f8d9 671b 6721 675e 6753 233c3 3b49 67fa 6785 6852 6885 2346d 688e 681f 6914 3b9d",
    "2f8e8 6942 69a3 69ea 6aa8 236a3 6adb 3c18 6b21 238a7 6b54 3c4e 6b72 6b9f 6bba 6bbb",
    "2f8f7 23a8d 21d0b 23afa 6c4e 23cbc 6cbf 6ccd 6c67 6d16 6d3e 6d77 6d41 6d69 6d78 6d85",
    "2f906 23d1e 6d34 6e2f 6e6e 3d33 6ecb 6ec7 23ed1 6df9 6f6e 23f5e 23f8e 6fc6 7039 701e",
    "2f915 701b 3d96 704a 707d 7077 70ad 20525 7145 24263 719c 243ab 7228 7235 7250 24608",
    "2f924 7280 7295 24735 24814 737a 738b 3eac 73a5 3eb8 3eb8 7447 745c 7471 7485 74ca",
    "2f933 3f1b 7524 24c36 753e 24c92 7570 2219f 7610 24fa1 24fb8 25044 3ffc 4008 76f4",
    "2f941 250f3 250f2 25119 25133 771e 771f 771f 774a 4039 778b 4046 4096 2541d 784e 788c",
    "2f950 78cc 40e3 25626 7956 2569a 256c5 798f 79eb 412f 7a40 7a4a 7a4f 2597c 25aa7 25aa7",
    "2f95f 7aee 4202 25bab 7bc6 7bc9 4227 25c80 7cd2 42a0 7ce8 7ce3 7d00 25f86 7d63 4301",
    "2f96e 7dc7 7e02 7e45 4334 26228 26247 4359 262d9 7f7a 2633e 7f95 7ffa 8005 264da 26523",
    "2f97d 8060 265a8 8070 2335f 43d5 80b2 8103 440b 813e 5ab5 267a7 267b5 23393 2339c 8201",
    "2f98c 8204 8f9e 446b 8291 828b 829d 52b3 82b1 82b3 82bd 82e6 26b3c 82e5 831d 8363 83ad",
    "2f99c 8323 83bd 83e7 8457 8353 83ca 83cc 83dc 26c36 26d6b 26cd5 452b 84f1 84f3 8516",
    "2f9ab 273ca 8564 26f2c 455d 4561 26fb1 270d2 456b 8650 865c 8667 8669 86a9 8688 870e",
    "2f9ba 86e2 8779 8728 876b 8786 45d7 87e1 8801 45f9 8860 8863 27667 88d7 88de 4635 88fa",
    "2f9ca 34bb 278ae 27966 46be 46c7 8aa0 8aed 8b8a 8c55 27ca8 8cab 8cc1 8d1b 8d77 27f2f",
    "2f9d9 20804 8dcb 8dbc 8df0 208de 8ed4 8f38 285d2 285ed 9094 90f1 9111 2872e 911b 9238",
    "2f9e8 92d7 92d8 927c 93f9 9415 28bfa 958b 4995 95b7 28d77 49e6 96c3 5db2 9723 29145",
    "2f9f7 2921a 4a6e 4a76 97e0 2940a 4ab2 29496 980b 980b 9829 295b6 98e2 4b33 9929 99a7",
    "2fa06 99c2 99fe 4bce 29b30 9b12 9c40 9cfd 4cce 4ced 9d67 2a0ce 4cf8 2a105 2a20e 2a291",
    "2fa15 9ebb 4d56 9ef9 9efe 9f05 9f0f 9f16 9f3b 2a600"]

def readRuns : Nat → List String → List (Nat × List Nat)
  | _, [] => []
  | c, word :: words =>
    match word.splitOn "*" with
    | [base, count] =>
      let n := natOfHex count.toList
      (List.range n).map (fun i => (c + i, [natOfHex base.toList + i])) ++ readRuns (c + n) words
    | _ => (c, codesOf word) :: readRuns (c + 1) words

def compatible : List (Nat × List Nat) :=
  compatibleRows.flatMap fun row =>
    match row.splitOn " " with
    | first :: words => readRuns (natOfHex first.toList) words
    | [] => []

end GeneticRepair.Text
